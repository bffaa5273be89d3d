import SuitCode.Library.CivilDates
import Mathlib.Data.String.Basic
import Mathlib.Data.Int.Order.Basic

/-!
# ISO timestamps

Timestamps in the extended format, to any precision from the hour on.  A text in UTC ends in
`Z`, which comes after every sign that may stand in its place, so that the texts are in the
order of the instants only as far as neither stops where the other goes on.
-/

namespace IsoTimestamps

open CivilDates

/-! ## Places -/

def placeBase (place : ℕ) : ℕ := if place ≤ 1 then 60 else 10

def placeUnit : ℕ → ℕ
  | 0 => 60000000
  | place + 1 => placeUnit place / placeBase (place + 1)

def microseconds : ℕ → List ℕ → ℕ
  | _, [] => 0
  | place, digit :: digits => digit * placeUnit place + microseconds (place + 1) digits

def inRange : ℕ → List ℕ → Bool
  | _, [] => true
  | place, digit :: digits => decide (digit < placeBase place) && inRange (place + 1) digits

structure IsoStamp where
  date : CivilDate
  hour : ℕ
  places : List ℕ
  hour_lt : hour < 24
  places_inRange : inRange 0 places = true
  deriving DecidableEq, Repr

namespace IsoStamp

def hours (stamp : IsoStamp) : ℕ := stamp.date.ordinal * 24 + stamp.hour

def instant (stamp : IsoStamp) : ℕ := stamp.hours * 3600000000 + microseconds 0 stamp.places

end IsoStamp

/-! ## Texts -/

def fixedDigits : ℕ → ℕ → List Char
  | 0, _ => []
  | width + 1, number => fixedDigits width (number / 10) ++ [Nat.digitChar (number % 10)]

def placeLead (place : ℕ) : List Char :=
  if place ≤ 1 then [':'] else if place = 2 then ['.'] else []

def placeWidth (place : ℕ) : ℕ := if place ≤ 1 then 2 else 1

def placeChars (zone : List Char) : ℕ → List ℕ → List Char
  | _, [] => zone
  | place, digit :: digits =>
      placeLead place ++ fixedDigits (placeWidth place) digit ++
        placeChars zone (place + 1) digits

namespace IsoStamp

/-- The date and the hour, which are spelled out in every text. -/
def start (stamp : IsoStamp) : List Char :=
  fixedDigits 4 stamp.date.year ++ '-' :: (fixedDigits 2 stamp.date.month ++
    '-' :: (fixedDigits 2 stamp.date.day ++ 'T' :: fixedDigits 2 stamp.hour))

def chars (zone : List Char) (stamp : IsoStamp) : List Char :=
  stamp.start ++ placeChars zone 0 stamp.places

def text (stamp : IsoStamp) : String := String.ofList (stamp.chars ['Z'])

end IsoStamp

/-! ## Comparing texts -/

theorem append_lt_append_iff {left right leftRest rightRest : List Char}
    (hlength : left.length = right.length) :
    left ++ leftRest < right ++ rightRest ↔
      left < right ∨ left = right ∧ leftRest < rightRest := by
  induction left generalizing right with
  | nil =>
      have hright : right = [] := List.eq_nil_of_length_eq_zero hlength.symm
      simp [hright]
  | cons c left ih =>
      cases right with
      | nil => simp at hlength
      | cons d right =>
          rw [List.cons_append, List.cons_append, List.cons_lt_cons_iff, List.cons_lt_cons_iff,
            ih (by simpa using hlength)]
          simp only [List.cons.injEq]
          tauto

@[simp] theorem length_fixedDigits (width number : ℕ) :
    (fixedDigits width number).length = width := by
  induction width generalizing number with
  | zero => rfl
  | succ width ih => simp [fixedDigits, ih]

variable {left right width digit : ℕ} {digits : List ℕ}

theorem digitChar_lt_iff (hleft : left < 10) (hright : right < 10) :
    Nat.digitChar left < Nat.digitChar right ↔ left < right := by
  have hall : ∀ left right : Fin 10,
      Nat.digitChar left < Nat.digitChar right ↔ left.val < right.val := by decide
  exact hall ⟨left, hleft⟩ ⟨right, hright⟩

theorem digitChar_inj (hleft : left < 10) (hright : right < 10) :
    Nat.digitChar left = Nat.digitChar right ↔ left = right := by
  have hall : ∀ left right : Fin 10,
      Nat.digitChar left = Nat.digitChar right ↔ left.val = right.val := by decide
  exact hall ⟨left, hleft⟩ ⟨right, hright⟩

theorem fixedDigits_inj (hleft : left < 10 ^ width) (hright : right < 10 ^ width) :
    fixedDigits width left = fixedDigits width right ↔ left = right := by
  induction width generalizing left right with
  | zero =>
      rw [pow_zero] at hleft hright
      simp only [fixedDigits, true_iff]
      omega
  | succ width ih =>
      rw [pow_succ] at hleft hright
      constructor
      · intro heq
        obtain ⟨hfront, hlast⟩ := List.append_inj heq (by simp)
        have hquotient := (ih (by omega) (by omega)).mp hfront
        have hremainder := (digitChar_inj (Nat.mod_lt _ (by omega))
          (Nat.mod_lt _ (by omega))).mp (List.singleton_inj.mp hlast)
        omega
      · intro heq
        rw [heq]

/-- Digits of one width are ordered as their numbers. -/
theorem fixedDigits_lt_iff (hleft : left < 10 ^ width) (hright : right < 10 ^ width) :
    fixedDigits width left < fixedDigits width right ↔ left < right := by
  induction width generalizing left right with
  | zero =>
      rw [pow_zero] at hleft hright
      simp only [fixedDigits, List.not_lt_nil, false_iff]
      omega
  | succ width ih =>
      rw [pow_succ] at hleft hright
      have hsame : fixedDigits width (left / 10) = fixedDigits width (right / 10) ↔
          left / 10 = right / 10 := fixedDigits_inj (by omega) (by omega)
      rw [fixedDigits, fixedDigits, append_lt_append_iff (by simp), hsame,
        ih (by omega) (by omega), List.cons_lt_cons_iff,
        digitChar_lt_iff (Nat.mod_lt _ (by omega)) (Nat.mod_lt _ (by omega))]
      simp only [List.not_lt_nil, and_false, or_false]
      omega

namespace IsoStamp

theorem daysInMonth_lt (year month : ℕ) : daysInMonth year month < 100 := by
  unfold daysInMonth
  split_ifs
  · omega
  · omega
  · omega
  · omega
  · omega

theorem start_lt_iff {left right : IsoStamp} :
    left.start < right.start ↔ left.hours < right.hours := by
  have hordinal := @CivilDate.ordinal_lt_iff left.date right.date
  have hsame := @CivilDate.ordinal_inj left.date right.date
  have hleft := left.hour_lt
  have hright := right.hour_lt
  have hyear := left.date.year_le
  have hyear' := right.date.year_le
  have hmonth := left.date.month_le
  have hmonth' := right.date.month_le
  have hday := left.date.day_le
  have hday' := right.date.day_le
  have hmax := daysInMonth_lt left.date.year left.date.month
  have hmax' := daysInMonth_lt right.date.year right.date.month
  have hdash : ¬ '-' < '-' := by decide
  have hT : ¬ 'T' < 'T' := by decide
  unfold start
  rw [append_lt_append_iff (by simp), List.cons_lt_cons_iff, append_lt_append_iff (by simp),
    List.cons_lt_cons_iff, append_lt_append_iff (by simp), List.cons_lt_cons_iff,
    fixedDigits_lt_iff (by omega) (by omega), fixedDigits_lt_iff (by omega) (by omega),
    fixedDigits_lt_iff (by omega) (by omega), fixedDigits_lt_iff (by omega) (by omega),
    fixedDigits_inj (by omega) (by omega), fixedDigits_inj (by omega) (by omega),
    fixedDigits_inj (by omega) (by omega)]
  simp only [hdash, hT, false_or, true_and]
  rw [CivilDate.ext_iff] at hsame
  unfold hours
  omega

end IsoStamp

/-! ## Places and instants -/

theorem placeUnit_eq_zero {place : ℕ} (hplace : 8 ≤ place) : placeUnit place = 0 := by
  induction place, hplace using Nat.le_induction with
  | base => rfl
  | succ place _ ih => rw [placeUnit, ih, Nat.zero_div]

theorem microseconds_eq_zero {place : ℕ} (hplace : 8 ≤ place) (digits : List ℕ) :
    microseconds place digits = 0 := by
  induction digits generalizing place with
  | nil => rfl
  | cons digit digits ih =>
      rw [microseconds, placeUnit_eq_zero hplace, ih (Nat.le_succ_of_le hplace), Nat.mul_zero]

theorem placeUnit_eq_mul {place : ℕ} (hplace : place < 7) :
    placeUnit place = placeBase (place + 1) * placeUnit (place + 1) := by
  interval_cases place
  · rfl
  · rfl
  · rfl
  · rfl
  · rfl
  · rfl
  · rfl

theorem microseconds_lt {place : ℕ} (hplace : place < 8)
    (hdigits : inRange (place + 1) digits = true) :
    microseconds (place + 1) digits < placeUnit place := by
  induction digits generalizing place with
  | nil =>
      rw [microseconds]
      interval_cases place
      · decide
      · decide
      · decide
      · decide
      · decide
      · decide
      · decide
      · decide
  | cons digit digits ih =>
      rw [inRange, Bool.and_eq_true] at hdigits
      by_cases hlast : place = 7
      · rw [hlast, microseconds_eq_zero le_rfl]
        decide
      · have hunit := placeUnit_eq_mul (by omega : place < 7)
        have hrest := ih (by omega) hdigits.2
        have hdigit : digit < placeBase (place + 1) := of_decide_eq_true hdigits.1
        calc
          microseconds (place + 1) (digit :: digits) <
              digit * placeUnit (place + 1) + placeUnit (place + 1) := by
            rw [microseconds]
            omega
          _ = (digit + 1) * placeUnit (place + 1) := by rw [Nat.add_mul, Nat.one_mul]
          _ ≤ placeBase (place + 1) * placeUnit (place + 1) := Nat.mul_le_mul_right _ hdigit
          _ = placeUnit place := hunit.symm

theorem microseconds_hour_lt (hdigits : inRange 0 digits = true) :
    microseconds 0 digits < 3600000000 := by
  cases digits with
  | nil => decide
  | cons digit digits =>
      rw [inRange, Bool.and_eq_true] at hdigits
      have hrest := microseconds_lt (by decide : 0 < 8) hdigits.2
      have hdigit : digit < 60 := of_decide_eq_true hdigits.1
      have hunit : placeUnit 0 = 60000000 := rfl
      rw [microseconds]
      rw [hunit] at hrest ⊢
      omega

theorem microseconds_cons_lt_iff {place : ℕ} (hplace : place < 8) {leftRest rightRest : List ℕ}
    (hleft : inRange (place + 1) leftRest = true) (hright : inRange (place + 1) rightRest = true)
    (hne : left ≠ right) :
    microseconds place (left :: leftRest) < microseconds place (right :: rightRest) ↔
      left < right := by
  have hleftRest := microseconds_lt hplace hleft
  have hrightRest := microseconds_lt hplace hright
  rw [microseconds, microseconds]
  constructor
  · intro hlt
    by_contra hnot
    have hmore : (right + 1) * placeUnit place ≤ left * placeUnit place :=
      Nat.mul_le_mul_right _ (by omega)
    rw [Nat.add_mul, Nat.one_mul] at hmore
    omega
  · intro hlt
    have hmore : (left + 1) * placeUnit place ≤ right * placeUnit place :=
      Nat.mul_le_mul_right _ hlt
    rw [Nat.add_mul, Nat.one_mul] at hmore
    omega

/-! ## Places and texts -/

section Texts

variable {place : ℕ}

theorem placeBase_le_pow (place : ℕ) : placeBase place ≤ 10 ^ placeWidth place := by
  unfold placeBase placeWidth
  split_ifs
  · decide
  · decide

theorem placeChars_cons_lt_iff {leftRest rightRest : List Char} (hleft : left < placeBase place)
    (hright : right < placeBase place) :
    placeLead place ++ fixedDigits (placeWidth place) left ++ leftRest <
        placeLead place ++ fixedDigits (placeWidth place) right ++ rightRest ↔
      left < right ∨ left = right ∧ leftRest < rightRest := by
  have hpow := placeBase_le_pow place
  have hlead : ¬ placeLead place < placeLead place := List.lt_irrefl _
  rw [append_lt_append_iff (by simp), append_lt_append_iff rfl,
    fixedDigits_lt_iff (by omega) (by omega)]
  simp only [hlead, List.append_cancel_left_eq, false_or, true_and]
  rw [fixedDigits_inj (by omega) (by omega)]

theorem digitChar_lt_Z (digit : ℕ) : Nat.digitChar (digit % 10) < 'Z' := by
  have hall : ∀ digit : Fin 10, Nat.digitChar digit < 'Z' := by decide
  exact hall ⟨digit % 10, Nat.mod_lt _ (by omega)⟩

theorem placeChars_cons_lt_Z (place digit : ℕ) (digits : List ℕ) :
    placeChars ['Z'] place (digit :: digits) < ['Z'] := by
  rw [placeChars]
  unfold placeLead placeWidth
  split_ifs with hclock hpoint
  · exact List.cons_lt_cons_iff.mpr (Or.inl (by decide))
  · exact List.cons_lt_cons_iff.mpr (Or.inl (by decide))
  · exact List.cons_lt_cons_iff.mpr (Or.inl (digitChar_lt_Z digit))

end Texts

/-! ## When the texts tell the order of the instants -/

/-- The places are such that the later text is not of the earlier instant: the upper one does not
go on where the lower one stops, stops where the lower one has only zeros left, and differs
first in a microsecond at the latest, or upwards. -/
def Comparable : ℕ → List ℕ → List ℕ → Prop
  | _, [], [] => True
  | _, [], _ :: _ => False
  | place, digit :: digits, [] => microseconds place (digit :: digits) = 0
  | place, lower :: lowerRest, upper :: upperRest =>
      if lower = upper then Comparable (place + 1) lowerRest upperRest
      else place < 8 ∨ lower < upper

theorem comparable_iff {place : ℕ} {lower upper : List ℕ} (hlower : inRange place lower = true)
    (hupper : inRange place upper = true) :
    (placeChars ['Z'] place upper < placeChars ['Z'] place lower ↔
        microseconds place upper < microseconds place lower) ↔
      Comparable place lower upper := by
  induction lower generalizing place upper with
  | nil =>
      cases upper with
      | nil => simp [Comparable, microseconds]
      | cons digit digits =>
          have hbefore : placeChars ['Z'] place (digit :: digits) < placeChars ['Z'] place [] :=
            placeChars_cons_lt_Z place digit digits
          simp [Comparable, hbefore, microseconds]
  | cons digit digits ih =>
      cases upper with
      | nil =>
          have hafter : ¬ placeChars ['Z'] place [] < placeChars ['Z'] place (digit :: digits) :=
            lt_asymm (placeChars_cons_lt_Z place digit digits)
          simp only [hafter, false_iff, Comparable]
          rw [microseconds]
          omega
      | cons other others =>
          rw [inRange, Bool.and_eq_true, decide_eq_true_eq] at hlower hupper
          rw [placeChars, placeChars, placeChars_cons_lt_iff hupper.1 hlower.1, Comparable]
          split_ifs with hsame
          · rw [hsame, ← ih hlower.2 hupper.2]
            simp only [lt_irrefl, true_and, false_or, microseconds, Nat.add_lt_add_iff_left]
          · by_cases hplace : place < 8
            · rw [microseconds_cons_lt_iff hplace hupper.2 hlower.2 (Ne.symm hsame)]
              simp [hplace, Ne.symm hsame]
            · rw [microseconds_eq_zero (by omega), microseconds_eq_zero (by omega)]
              simp only [Ne.symm hsame, hplace]
              simp
              omega

namespace IsoStamp

theorem instant_lt_of_hours_lt {left right : IsoStamp} (hlt : left.hours < right.hours) :
    left.instant < right.instant := by
  have hleft := microseconds_hour_lt left.places_inRange
  unfold instant
  omega

theorem text_lt_iff {lower upper : IsoStamp} :
    (upper.text < lower.text ↔ upper.instant < lower.instant) ↔
      (lower.hours = upper.hours → Comparable 0 lower.places upper.places) := by
  have htext : upper.text < lower.text ↔ upper.hours < lower.hours ∨
      upper.hours = lower.hours ∧
        placeChars ['Z'] 0 upper.places < placeChars ['Z'] 0 lower.places := by
    have hlength : upper.start.length = lower.start.length := by simp [start]
    have hsame : upper.start = lower.start ↔ upper.hours = lower.hours := by
      have hleft := @start_lt_iff upper lower
      have hright := @start_lt_iff lower upper
      constructor
      · intro heq
        have hirrefl := List.lt_irrefl lower.start
        rw [heq] at hleft hright
        have := mt hleft.mpr hirrefl
        have := mt hright.mpr hirrefl
        omega
      · intro heq
        have hnot : ¬ upper.start < lower.start := by
          rw [hleft]
          omega
        have hnot' : ¬ lower.start < upper.start := by
          rw [hright]
          omega
        exact List.le_antisymm (List.not_lt.mp hnot') (List.not_lt.mp hnot)
    rw [String.lt_iff_toList_lt, text, text, String.toList_ofList, String.toList_ofList, chars,
      chars, append_lt_append_iff hlength, start_lt_iff, hsame]
  rw [htext, ← comparable_iff lower.places_inRange upper.places_inRange]
  have hforward := @instant_lt_of_hours_lt upper lower
  have hbackward := @instant_lt_of_hours_lt lower upper
  by_cases hsame : upper.hours = lower.hours
  · simp only [hsame, lt_irrefl, true_and, false_or, true_implies, instant,
      Nat.add_lt_add_iff_left]
  · have hinstant : upper.hours < lower.hours ↔ upper.instant < lower.instant := by
      constructor
      · exact hforward
      · intro hlt
        by_contra hnot
        have := hbackward (by omega)
        omega
    simp [hsame, Ne.symm hsame, hinstant]

end IsoStamp

/-! ## Reading -/

def readLead (lead : Char) : List Char → Option (List Char)
  | [] => none
  | c :: chars => if c = lead then some chars else none

def readDigits : ℕ → List Char → Option (ℕ × List Char)
  | 0, chars => some (0, chars)
  | width + 1, chars =>
      match readDigits width chars with
      | some (number, c :: rest) =>
          if c.isDigit then some (number * 10 + (c.toNat - 48), rest) else none
      | _ => none

def readClock (chars : List Char) : Option (ℕ × List Char) :=
  (readLead ':' chars).bind (readDigits 2)

def readFraction (chars : List Char) : List ℕ × List Char :=
  match readLead '.' chars with
  | none => ([], chars)
  | some rest =>
      if rest.takeWhile Char.isDigit = [] then ([], chars)
      else ((rest.takeWhile Char.isDigit).map fun c => c.toNat - 48, rest.dropWhile Char.isDigit)

def readPlaces (chars : List Char) : List ℕ × List Char :=
  match readClock chars with
  | none => ([], chars)
  | some (minute, rest) =>
      match readClock rest with
      | none => ([minute], rest)
      | some (second, rest) =>
          (minute :: second :: (readFraction rest).1, (readFraction rest).2)

def readStamp (chars : List Char) : Option (IsoStamp × List Char) := do
  let (year, rest) ← readDigits 4 chars
  let rest ← readLead '-' rest
  let (month, rest) ← readDigits 2 rest
  let rest ← readLead '-' rest
  let (day, rest) ← readDigits 2 rest
  let rest ← readLead 'T' rest
  let (hour, rest) ← readDigits 2 rest
  let (places, rest) := readPlaces rest
  if hvalid : 1 ≤ year ∧ year ≤ 9999 ∧ 1 ≤ month ∧ month ≤ 12 ∧ 1 ≤ day ∧
      day ≤ daysInMonth year month ∧ hour < 24 ∧ inRange 0 places = true then
    some
      ({ date :=
          { year := year
            month := month
            day := day
            year_pos := hvalid.1
            year_le := hvalid.2.1
            month_pos := hvalid.2.2.1
            month_le := hvalid.2.2.2.1
            day_pos := hvalid.2.2.2.2.1
            day_le := hvalid.2.2.2.2.2.1 }
         hour := hour
         places := places
         hour_lt := hvalid.2.2.2.2.2.2.1
         places_inRange := hvalid.2.2.2.2.2.2.2 }, rest)
  else none

structure UtcOffset where
  negative : Bool
  hours : ℕ
  minutes : ℕ
  hours_lt : hours < 24
  minutes_lt : minutes < 60
  deriving DecidableEq, Repr

namespace UtcOffset

def sign (offset : UtcOffset) : Char := if offset.negative then '-' else '+'

def chars (offset : UtcOffset) : List Char :=
  offset.sign :: (fixedDigits 2 offset.hours ++ ':' :: fixedDigits 2 offset.minutes)

def microseconds (offset : UtcOffset) : ℤ :=
  (if offset.negative then -1 else 1) * (offset.hours * 60 + offset.minutes) * 60000000

/-- `+00:00`. -/
def utc : UtcOffset := ⟨false, 0, 0, by decide, by decide⟩

theorem sign_eq (offset : UtcOffset) : offset.sign = '+' ∨ offset.sign = '-' := by
  unfold sign
  cases offset.negative with
  | true => exact Or.inr rfl
  | false => exact Or.inl rfl

end UtcOffset

def readOffset : List Char → Option UtcOffset
  | [] => none
  | sign :: chars =>
      if sign = '+' ∨ sign = '-' then do
        let (hours, rest) ← readDigits 2 chars
        let rest ← readLead ':' rest
        let (minutes, rest) ← readDigits 2 rest
        if hvalid : hours < 24 ∧ minutes < 60 ∧ rest = [] then
          some ⟨decide (sign = '-'), hours, minutes, hvalid.1, hvalid.2.1⟩
        else none
      else none

/-- The instant of a text in the extended format, in microseconds; a text without an offset is
in UTC. -/
def readInstant (chars : List Char) : Option ℤ := do
  let (stamp, zone) ← readStamp chars
  if zone = [] then some stamp.instant
  else
    let offset ← readOffset zone
    some (stamp.instant - offset.microseconds)

section Reading

theorem digitChar_isDigit (hdigit : digit < 10) :
    (Nat.digitChar digit).isDigit = true := by
  have hall : ∀ digit : Fin 10, (Nat.digitChar digit).isDigit = true := by decide
  exact hall ⟨digit, hdigit⟩

theorem digitChar_toNat (hdigit : digit < 10) :
    (Nat.digitChar digit).toNat - 48 = digit := by
  have hall : ∀ digit : Fin 10, (Nat.digitChar digit).toNat - 48 = digit.val := by decide
  exact hall ⟨digit, hdigit⟩

theorem readDigits_fixedDigits {number : ℕ} (hnumber : number < 10 ^ width) (rest : List Char) :
    readDigits width (fixedDigits width number ++ rest) = some (number, rest) := by
  induction width generalizing number rest with
  | zero =>
      rw [pow_zero] at hnumber
      obtain rfl : number = 0 := by omega
      rfl
  | succ width ih =>
      rw [pow_succ] at hnumber
      have hlast : number % 10 < 10 := Nat.mod_lt _ (by omega)
      rw [readDigits, fixedDigits, List.append_assoc, ih (by omega)]
      simp only [List.singleton_append, digitChar_isDigit hlast, digitChar_toNat hlast, if_true]
      congr 2
      omega

@[simp] theorem readLead_cons (lead : Char) (chars : List Char) :
    readLead lead (lead :: chars) = some chars := if_pos rfl

theorem readClock_fixedDigits {number : ℕ} (hnumber : number < 60) (rest : List Char) :
    readClock (':' :: (fixedDigits 2 number ++ rest)) = some (number, rest) := by
  rw [readClock, readLead_cons, Option.bind_some, readDigits_fixedDigits (by omega)]

theorem placeChars_fraction {place : ℕ} (hplace : 3 ≤ place) (hdigits : inRange place digits = true)
    (zone : List Char) :
    placeChars zone place digits = digits.map Nat.digitChar ++ zone ∧
      ∀ digit ∈ digits, digit < 10 := by
  induction digits generalizing place with
  | nil => simp [placeChars]
  | cons digit digits ih =>
      rw [inRange, Bool.and_eq_true, decide_eq_true_eq, placeBase, if_neg (by omega)] at hdigits
      obtain ⟨hchars, hrest⟩ := ih (by omega) hdigits.2
      have hmod : digit % 10 = digit := Nat.mod_eq_of_lt hdigits.1
      constructor
      · rw [placeChars, hchars, placeLead, placeWidth, if_neg (by omega), if_neg (by omega),
          if_neg (by omega)]
        simp [fixedDigits, hmod]
      · intro other hother
        cases List.mem_cons.mp hother with
        | inl heq =>
            rw [heq]
            exact hdigits.1
        | inr htail => exact hrest other htail

variable {zone : List Char} {sign : Char} {chars : List Char}

theorem readClock_sign (hsign : sign = '+' ∨ sign = '-') : readClock (sign :: chars) = none := by
  cases hsign with
  | inl hplus => simp [readClock, readLead, hplus]
  | inr hminus => simp [readClock, readLead, hminus]

theorem readFraction_sign (hsign : sign = '+' ∨ sign = '-') :
    readFraction (sign :: chars) = ([], sign :: chars) := by
  cases hsign with
  | inl hplus => simp [readFraction, readLead, hplus]
  | inr hminus => simp [readFraction, readLead, hminus]

theorem readFraction_digits (hsign : sign = '+' ∨ sign = '-')
    (hdigits : ∀ other ∈ digit :: digits, other < 10) :
    readFraction ('.' :: ((digit :: digits).map Nat.digitChar ++ sign :: chars)) =
      (digit :: digits, sign :: chars) := by
  have hstop : sign.isDigit = false := by
    cases hsign with
    | inl hplus => rw [hplus]; decide
    | inr hminus => rw [hminus]; decide
  have hall : ∀ c ∈ (digit :: digits).map Nat.digitChar, c.isDigit = true := by
    intro c hc
    obtain ⟨other, hother, rfl⟩ := List.mem_map.mp hc
    exact digitChar_isDigit (hdigits other hother)
  have htake : ((digit :: digits).map Nat.digitChar ++ sign :: chars).takeWhile Char.isDigit =
      (digit :: digits).map Nat.digitChar := by
    rw [List.takeWhile_append_of_pos hall, List.takeWhile_cons_of_neg (by simp [hstop]),
      List.append_nil]
  have hdrop : ((digit :: digits).map Nat.digitChar ++ sign :: chars).dropWhile Char.isDigit =
      sign :: chars := by
    rw [List.dropWhile_append_of_pos hall, List.dropWhile_cons_of_neg (by simp [hstop])]
  have hvalues : ((digit :: digits).map Nat.digitChar).map (fun c => c.toNat - 48) =
      digit :: digits := by
    rw [List.map_map]
    calc
      (digit :: digits).map ((fun c => c.toNat - 48) ∘ Nat.digitChar) =
          (digit :: digits).map id :=
        List.map_congr_left fun other hother => digitChar_toNat (hdigits other hother)
      _ = digit :: digits := List.map_id _
  rw [readFraction, readLead_cons]
  dsimp only
  rw [htake, hdrop, hvalues, if_neg (by simp)]

theorem readPlaces_placeChars (hsign : sign = '+' ∨ sign = '-') {places : List ℕ}
    (hplaces : inRange 0 places = true) :
    readPlaces (placeChars (sign :: chars) 0 places) = (places, sign :: chars) := by
  match places, hplaces with
  | [], _ => rw [placeChars, readPlaces, readClock_sign hsign]
  | [minute], hplaces =>
      simp only [inRange, Bool.and_eq_true, decide_eq_true_eq] at hplaces
      have hchars : placeChars (sign :: chars) 0 [minute] =
          ':' :: (fixedDigits 2 minute ++ sign :: chars) := rfl
      rw [hchars, readPlaces, readClock_fixedDigits hplaces.1]
      dsimp only
      rw [readClock_sign hsign]
  | minute :: second :: digits, hplaces =>
      rw [inRange, inRange, Bool.and_eq_true, Bool.and_eq_true, decide_eq_true_eq,
        decide_eq_true_eq] at hplaces
      obtain ⟨hminute, hsecond, hdigits⟩ := hplaces
      have hchars : placeChars (sign :: chars) 0 (minute :: second :: digits) =
          ':' :: (fixedDigits 2 minute ++
            ':' :: (fixedDigits 2 second ++ placeChars (sign :: chars) 2 digits)) := by
        rw [placeChars, placeChars]
        simp [placeLead, placeWidth]
      have hfraction : readFraction (placeChars (sign :: chars) 2 digits) =
          (digits, sign :: chars) := by
        cases digits with
        | nil => exact readFraction_sign hsign
        | cons digit digits =>
            rw [inRange, Bool.and_eq_true, decide_eq_true_eq] at hdigits
            obtain ⟨hrest, hsmall⟩ :=
              placeChars_fraction (le_refl 3) hdigits.2 (sign :: chars)
            have hmod : digit % 10 = digit := Nat.mod_eq_of_lt hdigits.1
            have hsmall' : ∀ other ∈ digit :: digits, other < 10 := by
              intro other hother
              cases List.mem_cons.mp hother with
              | inl heq =>
                  rw [heq]
                  exact hdigits.1
              | inr htail => exact hsmall other htail
            have hread : readFraction
                ('.' :: ((digit :: digits).map Nat.digitChar ++ sign :: chars)) =
                  (digit :: digits, sign :: chars) := readFraction_digits hsign hsmall'
            rw [placeChars, hrest, ← hread]
            simp [placeLead, placeWidth, fixedDigits, hmod]
      rw [hchars, readPlaces, readClock_fixedDigits hminute]
      dsimp only
      rw [readClock_fixedDigits hsecond]
      dsimp only
      rw [hfraction]

theorem readStamp_chars (hsign : sign = '+' ∨ sign = '-') (stamp : IsoStamp) :
    readStamp (stamp.chars (sign :: chars)) = some (stamp, sign :: chars) := by
  have hyear := stamp.date.year_le
  have hmonth := stamp.date.month_le
  have hday := stamp.date.day_le
  have hmax := IsoStamp.daysInMonth_lt stamp.date.year stamp.date.month
  have hhour := stamp.hour_lt
  have hchars : stamp.chars (sign :: chars) =
      fixedDigits 4 stamp.date.year ++ '-' :: (fixedDigits 2 stamp.date.month ++
        '-' :: (fixedDigits 2 stamp.date.day ++ 'T' :: (fixedDigits 2 stamp.hour ++
          placeChars (sign :: chars) 0 stamp.places))) := by
    simp [IsoStamp.chars, IsoStamp.start]
  rw [hchars, readStamp, readDigits_fixedDigits (by omega)]
  simp only [Option.bind_eq_bind, Option.bind_some, readLead_cons]
  rw [readDigits_fixedDigits (by omega)]
  simp only [Option.bind_some, readLead_cons]
  rw [readDigits_fixedDigits (by omega)]
  simp only [Option.bind_some, readLead_cons]
  rw [readDigits_fixedDigits (by omega)]
  simp only [Option.bind_some]
  rw [readPlaces_placeChars hsign stamp.places_inRange]
  dsimp only
  rw [dif_pos ⟨stamp.date.year_pos, hyear, stamp.date.month_pos, hmonth, stamp.date.day_pos,
    hday, hhour, stamp.places_inRange⟩]

theorem readOffset_chars (offset : UtcOffset) : readOffset offset.chars = some offset := by
  have hhours := offset.hours_lt
  have hminutes := offset.minutes_lt
  have hlast : readDigits 2 (fixedDigits 2 offset.minutes) = some (offset.minutes, []) := by
    have hread : readDigits 2 (fixedDigits 2 offset.minutes ++ []) =
        some (offset.minutes, []) := readDigits_fixedDigits (by omega) []
    rwa [List.append_nil] at hread
  have hnegative : decide (offset.sign = '-') = offset.negative := by
    unfold UtcOffset.sign
    cases offset.negative with
    | true => rfl
    | false => rfl
  rw [UtcOffset.chars, readOffset, if_pos offset.sign_eq, readDigits_fixedDigits (by omega)]
  simp only [Option.bind_eq_bind, Option.bind_some, readLead_cons]
  rw [hlast]
  simp only [Option.bind_some]
  rw [dif_pos ⟨hhours, hminutes, trivial⟩]
  simp only [hnegative]

theorem readInstant_chars (stamp : IsoStamp) (offset : UtcOffset) :
    readInstant (stamp.chars offset.chars) = some (stamp.instant - offset.microseconds) := by
  have hread : readStamp (stamp.chars offset.chars) = some (stamp, offset.chars) :=
    readStamp_chars offset.sign_eq stamp
  rw [readInstant, hread]
  simp only [Option.bind_eq_bind, Option.bind_some]
  rw [if_neg (by simp [UtcOffset.chars]), readOffset_chars, Option.bind_some]

end Reading

/-! ## The stamp of an instant -/

def firstInstant : ℕ := 24 * 3600000000

def lastInstant : ℕ := (maxOrdinal * 24 + 23) * 3600000000 + 3599999999

/-- The time of an instant to the millisecond; an instant without a date is moved to the nearest
one which has a date. -/
def IsoStamp.ofInstant (instant : ℤ) : IsoStamp :=
  let total := (max (firstInstant : ℤ) (min lastInstant instant)).toNat
  have htotal : firstInstant ≤ total ∧ total ≤ lastInstant := by
    have hbounds : firstInstant ≤ lastInstant := by decide
    omega
  let rest := total % 3600000000
  have hordinal : 1 ≤ total / 3600000000 / 24 ∧ total / 3600000000 / 24 ≤ maxOrdinal := by
    unfold firstInstant lastInstant at htotal
    omega
  { date := CivilDate.ofOrdinal (total / 3600000000 / 24) hordinal.1 hordinal.2
    hour := total / 3600000000 % 24
    places := [rest / 60000000, rest / 1000000 % 60, rest / 100000 % 10, rest / 10000 % 10,
      rest / 1000 % 10]
    hour_lt := Nat.mod_lt _ (by decide)
    places_inRange := by
      have hminute : rest / 60000000 < 60 := by omega
      have hsecond : rest / 1000000 % 60 < 60 := Nat.mod_lt _ (by decide)
      have hdigit : ∀ unit, rest / unit % 10 < 10 := fun unit => Nat.mod_lt _ (by decide)
      simp [inRange, placeBase, hminute, hsecond, hdigit] }

theorem IsoStamp.instant_ofInstant {instant : ℤ} (hfirst : (firstInstant : ℤ) ≤ instant)
    (hlast : instant ≤ lastInstant) :
    ((ofInstant instant).instant : ℤ) = instant - instant % 1000 := by
  have htotal : max (firstInstant : ℤ) (min lastInstant instant) = instant := by
    rw [min_eq_right hlast, max_eq_right hfirst]
  simp only [ofInstant, IsoStamp.instant, hours, CivilDate.ordinal_ofOrdinal, microseconds,
    htotal]
  have hunits : placeUnit 0 = 60000000 ∧ placeUnit 1 = 1000000 ∧ placeUnit 2 = 100000 ∧
      placeUnit 3 = 10000 ∧ placeUnit 4 = 1000 := ⟨rfl, rfl, rfl, rfl, rfl⟩
  simp only [hunits]
  omega

end IsoTimestamps
