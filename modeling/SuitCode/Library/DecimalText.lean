import Mathlib.Data.List.SplitOn
import SuitCode.Library.PosixNormalForm

/-!
# Decimal numbers in texts

A decimal digit of any script counts as its value.  A number is written by
digits with single underscores between them, a sign before them and white space
around them.
-/

namespace DecimalText

open PosixText

def decimalZeros : List ℕ :=
  [0x30, 0x660, 0x6f0, 0x7c0, 0x966, 0x9e6, 0xa66, 0xae6, 0xb66, 0xbe6, 0xc66, 0xce6, 0xd66,
    0xde6, 0xe50, 0xed0, 0xf20, 0x1040, 0x1090, 0x17e0, 0x1810, 0x1946, 0x19d0, 0x1a80,
    0x1a90, 0x1b50, 0x1bb0, 0x1c40, 0x1c50, 0xa620, 0xa8d0, 0xa900, 0xa9d0, 0xa9f0, 0xaa50,
    0xabf0, 0xff10, 0x104a0, 0x10d30, 0x11066, 0x110f0, 0x11136, 0x111d0, 0x112f0, 0x11450,
    0x114d0, 0x11650, 0x116c0, 0x11730, 0x118e0, 0x11950, 0x11c50, 0x11d50, 0x11da0, 0x11f50,
    0x16a60, 0x16ac0, 0x16b50, 0x1d7ce, 0x1d7d8, 0x1d7e2, 0x1d7ec, 0x1d7f6, 0x1e140, 0x1e2f0,
    0x1e4f0, 0x1e950, 0x1fbf0]

def decimalValue (c : Char) : Option ℕ :=
  (decimalZeros.find? fun start => start ≤ c.toNat && c.toNat < start + 10).map fun start =>
    c.toNat - start

def isDecimal (c : Char) : Bool := (decimalValue c).isSome

def maxStrDigits : ℕ := 4300

def parseDigits (digits : List Char) : Option ℕ :=
  let groups := digits.splitOn '_'
  if groups.all fun group => !group.isEmpty && group.all isDecimal then
    if groups.flatten.length ≤ maxStrDigits then
      some ((groups.flatten.filterMap decimalValue).foldl
        (fun number digit => 10 * number + digit) 0)
    else
      none
  else
    none

/-- `int(text)`. -/
def parseInt (text : String) : Option ℤ :=
  match (strip text).toList with
  | '-' :: digits => (parseDigits digits).map fun value => -(value : ℤ)
  | '+' :: digits => (parseDigits digits).map Int.ofNat
  | digits => (parseDigits digits).map Int.ofNat

/-! ## Numbers which are written out -/

theorem decimalValue_of_isDigit {c : Char} (hdigit : c.isDigit = true) :
    decimalValue c = some (c.toNat - 48) := by
  have hcode : 48 ≤ c.toNat ∧ c.toNat ≤ 57 := by
    simp only [Char.isDigit, Bool.and_eq_true, decide_eq_true_eq, UInt32.le_iff_toNat_le] at hdigit
    exact hdigit
  have hfirst : (decide (48 ≤ c.toNat) && decide (c.toNat < 48 + 10)) = true := by
    simp only [Bool.and_eq_true, decide_eq_true_eq]
    omega
  have hfind : decimalZeros.find? (fun start => start ≤ c.toNat && c.toNat < start + 10) =
      some 48 :=
    List.find?_cons_of_pos hfirst
  unfold decimalValue
  rw [hfind]
  rfl

theorem foldl_decimalValue {digits : List Char} (hdigits : ∀ c ∈ digits, c.isDigit = true)
    (start : ℕ) :
    (digits.filterMap decimalValue).foldl (fun number digit => 10 * number + digit) start =
      Nat.ofDigitChars 10 digits start := by
  induction digits generalizing start with
  | nil => rfl
  | cons c digits ih =>
      rw [List.filterMap_cons_some (decimalValue_of_isDigit (hdigits c List.mem_cons_self)),
        List.foldl_cons, ih fun later hlater => hdigits later (List.mem_cons_of_mem _ hlater)]
      rfl

theorem parseDigits_of_isDigit {digits : List Char} (hne : digits ≠ [])
    (hdigits : ∀ c ∈ digits, c.isDigit = true) (hlength : digits.length ≤ maxStrDigits) :
    parseDigits digits = some (Nat.ofDigitChars 10 digits 0) := by
  have hsplit : digits.splitOn '_' = [digits] := by
    apply List.splitOn_eq_singleton
    intro hmem
    exact absurd (hdigits '_' hmem) (by decide)
  have hall : (!digits.isEmpty && digits.all isDecimal) = true := by
    rw [Bool.and_eq_true, Bool.not_eq_true', List.isEmpty_eq_false_iff, List.all_eq_true]
    refine ⟨hne, ?_⟩
    intro c hc
    unfold isDecimal
    rw [decimalValue_of_isDigit (hdigits c hc)]
    rfl
  unfold parseDigits
  simp only [hsplit, List.all_cons, List.all_nil, hall, Bool.and_true, List.flatten_cons,
    List.flatten_nil, List.append_nil, hlength, if_true, foldl_decimalValue hdigits]

theorem toString_injective : Function.Injective (toString : ℕ → String) := by
  intro left right heq
  rw [Nat.toString_eq_ofList_toDigits, Nat.toString_eq_ofList_toDigits] at heq
  have hvalues := congrArg (fun digits => Nat.ofDigitChars 10 digits 0)
    (String.ofList_injective heq)
  simpa only [Nat.ofDigitChars_ten_toDigits] using hvalues

/-- A number which is not too long is read back. -/
theorem parseInt_toString {number : ℕ} (hnumber : number < 10 ^ maxStrDigits) :
    parseInt (toString number) = some (number : ℤ) := by
  have hdigits : ∀ c ∈ Nat.toDigits 10 number, c.isDigit = true := fun c hc =>
    Nat.isDigit_of_mem_toDigits (by decide) (by decide) hc
  have hchars : (toString number).toList = Nat.toDigits 10 number := by
    rw [Nat.toString_eq_ofList_toDigits, String.toList_ofList]
  have hstrip : strip (toString number) = toString number := by
    apply strip_eq_self
    rw [hchars]
    intro c hc
    exact isSpace_of_isDigit (hdigits c hc)
  have hlength : (Nat.toDigits 10 number).length ≤ maxStrDigits :=
    (Nat.length_toDigits_le_iff (by decide) (by decide)).mpr hnumber
  have hparsed : parseDigits (Nat.toDigits 10 number) = some number := by
    rw [parseDigits_of_isDigit Nat.toDigits_ne_nil hdigits hlength, Nat.ofDigitChars_ten_toDigits]
  unfold parseInt
  rw [hstrip, hchars]
  -- the first digit is no sign
  cases hdigit : Nat.toDigits 10 number with
  | nil => exact absurd hdigit Nat.toDigits_ne_nil
  | cons c digits =>
      have hc : c.isDigit = true := hdigits c (by rw [hdigit]; exact List.mem_cons_self)
      rw [hdigit] at hparsed
      have hminus : c ≠ '-' := fun h => absurd (h ▸ hc) (by decide)
      have hplus : c ≠ '+' := fun h => absurd (h ▸ hc) (by decide)
      split
      · next heq => exact absurd (List.cons.inj heq).1 hminus
      · next heq => exact absurd (List.cons.inj heq).1 hplus
      · rw [hparsed]
        rfl

example : parseInt " +1_0٣ " = some 103 := by decide

end DecimalText
