import SuitCode.Library.KeyedTable
import Mathlib.Data.Prod.Lex
import Mathlib.Order.Basic
import Mathlib.Data.String.Basic
import Mathlib.Data.Nat.Notation

/-!
# JSON texts

Values without fractional numbers, their canonical text (members in key order,
no blanks, only quotes, backslashes and control characters escaped) and a
reader of JSON texts.  Reading the canonical text of a value gives the value
back with its members in key order.
-/

namespace JsonText

open KeyedList KeyedTable

inductive Json where
  | null
  | bool (value : Bool)
  | int (value : ℤ)
  | str (value : String)
  | arr (items : List Json)
  | obj (members : List (String × Json))

/-! ## Writing -/

def hexDigit (n : ℕ) : Char := Nat.digitChar n

def escapeChar (c : Char) : List Char :=
  if c = '"' then ['\\', '"']
  else if c = '\\' then ['\\', '\\']
  else if c = '\n' then ['\\', 'n']
  else if c = '\r' then ['\\', 'r']
  else if c = '\t' then ['\\', 't']
  else if c = Char.ofNat 8 then ['\\', 'b']
  else if c = Char.ofNat 12 then ['\\', 'f']
  else if c.toNat < 32 then
    ['\\', 'u', '0', '0', hexDigit (c.toNat / 16), hexDigit (c.toNat % 16)]
  else [c]

def renderString (text : String) : List Char :=
  '"' :: (text.toList.flatMap escapeChar ++ ['"'])

def renderInt (value : ℤ) : List Char :=
  if value < 0 then '-' :: Nat.toDigits 10 value.natAbs else Nat.toDigits 10 value.natAbs

mutual

def render : Json → List Char
  | .null => ['n', 'u', 'l', 'l']
  | .bool true => ['t', 'r', 'u', 'e']
  | .bool false => ['f', 'a', 'l', 's', 'e']
  | .int value => renderInt value
  | .str value => renderString value
  | .arr [] => ['[', ']']
  | .arr (item :: items) => '[' :: (render item ++ renderItems items)
  | .obj [] => ['{', '}']
  | .obj ((name, value) :: members) =>
      '{' :: (renderString name ++ ':' :: (render value ++ renderMembers members))

def renderItems : List Json → List Char
  | [] => [']']
  | item :: items => ',' :: (render item ++ renderItems items)

def renderMembers : List (String × Json) → List Char
  | [] => ['}']
  | (name, value) :: members =>
      ',' :: (renderString name ++ ':' :: (render value ++ renderMembers members))

end

mutual

def sortKeys : Json → Json
  | .null => .null
  | .bool value => .bool value
  | .int value => .int value
  | .str value => .str value
  | .arr items => .arr (sortItems items)
  | .obj members => .obj (sortedBy Prod.fst (sortMembers members))

def sortItems : List Json → List Json
  | [] => []
  | item :: items => sortKeys item :: sortItems items

def sortMembers : List (String × Json) → List (String × Json)
  | [] => []
  | (name, value) :: members => (name, sortKeys value) :: sortMembers members

end

/-- `json.dumps(value, sort_keys=True, separators=(",", ":"), ensure_ascii=False)`. -/
def dumps (value : Json) : String := String.ofList (render (sortKeys value))

/-! ## Reading -/

def isBlankChar (c : Char) : Bool := c = ' ' || c = '\t' || c = '\n' || c = '\r'

def skipBlanks (text : List Char) : List Char := text.dropWhile isBlankChar

def hexValue (c : Char) : Option ℕ :=
  if '0' ≤ c ∧ c ≤ '9' then some (c.toNat - 48)
  else if 'a' ≤ c ∧ c ≤ 'f' then some (c.toNat - 87)
  else if 'A' ≤ c ∧ c ≤ 'F' then some (c.toNat - 55)
  else none

def unescape (c : Char) : Option Char :=
  if c = '"' then some '"'
  else if c = '\\' then some '\\'
  else if c = '/' then some '/'
  else if c = 'n' then some '\n'
  else if c = 'r' then some '\r'
  else if c = 't' then some '\t'
  else if c = 'b' then some (Char.ofNat 8)
  else if c = 'f' then some (Char.ofNat 12)
  else none

def scanString : List Char → Option (List ℕ × List Char)
  | [] => none
  | '"' :: rest => some ([], rest)
  | '\\' :: 'u' :: a :: b :: c :: d :: rest =>
      match hexValue a, hexValue b, hexValue c, hexValue d with
      | some a, some b, some c, some d =>
          (scanString rest).map fun scanned =>
            ((((a * 16 + b) * 16 + c) * 16 + d) :: scanned.1, scanned.2)
      | _, _, _, _ => none
  | '\\' :: c :: rest =>
      match unescape c with
      | some c => (scanString rest).map fun scanned => (c.toNat :: scanned.1, scanned.2)
      | none => none
  | c :: rest =>
      if c.toNat < 32 ∨ c = '\\' then none
      else (scanString rest).map fun scanned => (c.toNat :: scanned.1, scanned.2)

def joinSurrogates : List ℕ → Option (List Char)
  | [] => some []
  | [unit] => if unit.isValidChar then some [Char.ofNat unit] else none
  | high :: low :: rest =>
      if 0xd800 ≤ high ∧ high < 0xdc00 ∧ 0xdc00 ≤ low ∧ low < 0xe000 then
        (joinSurrogates rest).map
          (Char.ofNat (0x10000 + (high - 0xd800) * 0x400 + (low - 0xdc00)) :: ·)
      else if high.isValidChar then (joinSurrogates (low :: rest)).map (Char.ofNat high :: ·)
      else none

def readString (text : List Char) : Option (String × List Char) :=
  match scanString text with
  | none => none
  | some (units, rest) => (joinSurrogates units).map fun chars => (String.ofList chars, rest)

def readNat (text : List Char) : Option (ℕ × List Char) :=
  match text.takeWhile Char.isDigit with
  | [] => none
  | '0' :: _ :: _ => none
  | digits => some (Nat.ofDigitChars 10 digits 0, text.dropWhile Char.isDigit)

def readInt : List Char → Option (ℤ × List Char)
  | '-' :: rest => (readNat rest).map fun read => (-(read.1 : ℤ), read.2)
  | text => (readNat text).map fun read => ((read.1 : ℤ), read.2)

def dictionary (members : List (String × Json)) : List (String × Json) :=
  members.foldl (fun written member => upsertRows Prod.fst member written) []

mutual

def readValue : ℕ → List Char → Option (Json × List Char)
  | 0, _ => none
  | fuel + 1, text =>
      match skipBlanks text with
      | 'n' :: 'u' :: 'l' :: 'l' :: rest => some (.null, rest)
      | 't' :: 'r' :: 'u' :: 'e' :: rest => some (.bool true, rest)
      | 'f' :: 'a' :: 'l' :: 's' :: 'e' :: rest => some (.bool false, rest)
      | '"' :: rest => (readString rest).map fun read => (.str read.1, read.2)
      | '[' :: rest =>
          match skipBlanks rest with
          | ']' :: rest => some (.arr [], rest)
          | rest => (readItems fuel rest).map fun read => (.arr read.1, read.2)
      | '{' :: rest =>
          match skipBlanks rest with
          | '}' :: rest => some (.obj [], rest)
          | rest => (readMembers fuel rest).map fun read => (.obj (dictionary read.1), read.2)
      | rest => (readInt rest).map fun read => (.int read.1, read.2)

def readItems : ℕ → List Char → Option (List Json × List Char)
  | 0, _ => none
  | fuel + 1, text =>
      match readValue fuel text with
      | none => none
      | some (item, rest) =>
          match skipBlanks rest with
          | ',' :: rest => (readItems fuel rest).map fun read => (item :: read.1, read.2)
          | ']' :: rest => some ([item], rest)
          | _ => none

def readMembers : ℕ → List Char → Option (List (String × Json) × List Char)
  | 0, _ => none
  | fuel + 1, text =>
      match skipBlanks text with
      | '"' :: rest =>
          match readString rest with
          | none => none
          | some (name, rest) =>
              match skipBlanks rest with
              | ':' :: rest =>
                  match readValue fuel rest with
                  | none => none
                  | some (value, rest) =>
                      match skipBlanks rest with
                      | ',' :: rest =>
                          (readMembers fuel rest).map fun read =>
                            ((name, value) :: read.1, read.2)
                      | '}' :: rest => some ([(name, value)], rest)
                      | _ => none
              | _ => none
      | _ => none

end

/-- `json.loads(text)`. -/
def loads (text : String) : Option Json :=
  match readValue (text.toList.length + 1) text.toList with
  | none => none
  | some (value, rest) => if skipBlanks rest = [] then some value else none

/-! ## Numbers and strings read back -/

def NoDigitAhead (text : List Char) : Prop :=
  ∀ c rest, text = c :: rest → c.isDigit = false

theorem noDigitAhead_nil : NoDigitAhead [] := by
  intro c rest h
  cases h

variable {c : Char} {rest : List Char} {members : List (String × Json)}

theorem noDigitAhead_cons (hc : c.isDigit = false) :
    NoDigitAhead (c :: rest) := by
  intro c' rest' h
  cases h
  exact hc

theorem takeWhile_digits {digits : List Char} (hdigits : ∀ c ∈ digits, c.isDigit = true)
    (hrest : NoDigitAhead rest) :
    (digits ++ rest).takeWhile Char.isDigit = digits ∧
      (digits ++ rest).dropWhile Char.isDigit = rest := by
  rw [List.takeWhile_append_of_pos hdigits, List.dropWhile_append_of_pos hdigits]
  cases rest with
  | nil => simp
  | cons c rest =>
      have hc := hrest c rest rfl
      simp [hc]

theorem toDigits_eq_zero_cons {n : ℕ} {digits : List Char}
    (hdigits : Nat.toDigits 10 n = '0' :: digits) : digits = [] := by
  induction n using Nat.strong_induction_on generalizing digits with
  | _ n ih =>
      by_cases hsmall : n < 10
      · rw [Nat.toDigits_of_lt_base hsmall] at hdigits
        simp at hdigits
        exact hdigits.2
      · have hbase : 10 ≤ n := by omega
        have hsplit := Nat.toDigits_of_base_le (by omega : 1 < 10) hbase
        rw [hsplit] at hdigits
        cases hfront : Nat.toDigits 10 (n / 10) with
        | nil => exact absurd hfront Nat.toDigits_ne_nil
        | cons c front =>
            rw [hfront] at hdigits
            simp only [List.cons_append, List.cons.injEq] at hdigits
            have hc := hdigits.1
            subst hc
            have hnil := ih (n / 10) (by omega) hfront
            subst hnil
            have hvalue : Nat.ofDigitChars 10 (Nat.toDigits 10 (n / 10)) 0 = n / 10 :=
              Nat.ofDigitChars_ten_toDigits
            have hzero : Nat.ofDigitChars 10 ['0'] 0 = 0 := rfl
            rw [hfront, hzero] at hvalue
            omega

theorem readNat_toDigits (n : ℕ) (hrest : NoDigitAhead rest) :
    readNat (Nat.toDigits 10 n ++ rest) = some (n, rest) := by
  have hall : ∀ c ∈ Nat.toDigits 10 n, c.isDigit = true := fun c hc =>
    Nat.isDigit_of_mem_toDigits (by omega) (by omega) hc
  obtain ⟨htake, hdrop⟩ := takeWhile_digits hall hrest
  have hvalue : Nat.ofDigitChars 10 (Nat.toDigits 10 n) 0 = n :=
    Nat.ofDigitChars_ten_toDigits
  unfold readNat
  rw [htake, hdrop]
  split
  · next hnil => exact absurd hnil Nat.toDigits_ne_nil
  · next hzero => exact absurd (toDigits_eq_zero_cons hzero) (by simp)
  · rw [hvalue]

theorem readInt_renderInt (value : ℤ) (hrest : NoDigitAhead rest) :
    readInt (renderInt value ++ rest) = some (value, rest) := by
  unfold renderInt
  by_cases hneg : value < 0
  · have habs : -((value.natAbs : ℕ) : ℤ) = value := by omega
    rw [if_pos hneg, List.cons_append, readInt, readNat_toDigits _ hrest, Option.map_some, habs]
  · rw [if_neg hneg]
    unfold readInt
    split
    · next heq =>
        have hmem : '-' ∈ Nat.toDigits 10 value.natAbs := by
          cases hdigits : Nat.toDigits 10 value.natAbs with
          | nil => exact absurd hdigits Nat.toDigits_ne_nil
          | cons c digits =>
              rw [hdigits] at heq
              simp at heq
              simp [heq.1]
        have hdigit := Nat.isDigit_of_mem_toDigits (by omega) (by omega) hmem
        exact absurd hdigit (by decide)
    · rw [readNat_toDigits _ hrest]
      simp
      omega

theorem hexValue_hexDigit : ∀ d < 16, hexValue (hexDigit d) = some d := by decide

theorem scanString_escapeChar (c : Char) (rest : List Char) :
    scanString (escapeChar c ++ rest) =
      (scanString rest).map fun scanned => (c.toNat :: scanned.1, scanned.2) := by
  unfold escapeChar
  by_cases hquote : c = '"'
  · subst hquote
    rfl
  by_cases hback : c = '\\'
  · subst hback
    rfl
  by_cases hnewline : c = '\n'
  · subst hnewline
    rfl
  by_cases hreturn : c = '\r'
  · subst hreturn
    rfl
  by_cases htab : c = '\t'
  · subst htab
    rfl
  by_cases hbackspace : c = Char.ofNat 8
  · subst hbackspace
    rfl
  by_cases hfeed : c = Char.ofNat 12
  · subst hfeed
    rfl
  rw [if_neg hquote, if_neg hback, if_neg hnewline, if_neg hreturn, if_neg htab,
    if_neg hbackspace, if_neg hfeed]
  by_cases hcontrol : c.toNat < 32
  · have hhigh := hexValue_hexDigit (c.toNat / 16) (by omega)
    have hlow := hexValue_hexDigit (c.toNat % 16) (by omega)
    have hzero : hexValue '0' = some 0 := by decide
    have hunit : ((0 * 16 + 0) * 16 + c.toNat / 16) * 16 + c.toNat % 16 = c.toNat := by
      omega
    simp only [if_pos hcontrol, List.cons_append, List.nil_append, scanString, hhigh, hlow,
      hzero, hunit]
  · simp [if_neg hcontrol, scanString, hback]

theorem scanString_flatMap_escapeChar (chars rest : List Char) :
    scanString (chars.flatMap escapeChar ++ '"' :: rest) =
      some (chars.map Char.toNat, rest) := by
  induction chars with
  | nil => simp [scanString]
  | cons c chars ih =>
      rw [List.flatMap_cons, List.append_assoc, scanString_escapeChar, ih]
      rfl

theorem not_surrogate (c : Char) : ¬ (0xd800 ≤ c.toNat ∧ c.toNat < 0xe000) := by
  have hvalid : c.toNat.isValidChar := c.valid
  rcases hvalid with hsmall | hlarge
  · omega
  · omega

theorem joinSurrogates_map_toNat (chars : List Char) :
    joinSurrogates (chars.map Char.toNat) = some chars := by
  induction chars with
  | nil => rfl
  | cons c chars ih =>
      have hvalid : c.toNat.isValidChar := c.valid
      have hnone := not_surrogate c
      cases chars with
      | nil => simp [joinSurrogates, hvalid]
      | cons next chars =>
          have hpair : ¬ (0xd800 ≤ c.toNat ∧ c.toNat < 0xdc00 ∧
              0xdc00 ≤ next.toNat ∧ next.toNat < 0xe000) := by
            omega
          rw [List.map_cons] at ih
          simp only [List.map_cons, joinSurrogates, if_neg hpair, if_pos hvalid, ih,
            Option.map_some, Char.ofNat_toNat]

theorem readString_renderString (text : String) (rest : List Char) :
    readString (text.toList.flatMap escapeChar ++ '"' :: rest) = some (text, rest) := by
  simp [readString, scanString_flatMap_escapeChar, joinSurrogates_map_toNat]

/-! ## Values read back -/

inductive DistinctNames : Json → Prop where
  | null : DistinctNames .null
  | bool (value : Bool) : DistinctNames (.bool value)
  | int (value : ℤ) : DistinctNames (.int value)
  | str (value : String) : DistinctNames (.str value)
  | arr {items : List Json} (hitems : ∀ item ∈ items, DistinctNames item) :
      DistinctNames (.arr items)
  | obj {members : List (String × Json)} (hnames : (members.map Prod.fst).Nodup)
      (hmembers : ∀ member ∈ members, DistinctNames member.2) :
      DistinctNames (.obj members)

theorem dictionary_of_nodup (hnames : (members.map Prod.fst).Nodup) :
    dictionary members = members := by
  have hall : (([] ++ members).map Prod.fst).Nodup := by simpa using hnames
  simpa [dictionary] using foldl_upsertRows_of_nodup hall

mutual

def size : Json → ℕ
  | .arr items => sizeItems items + 1
  | .obj members => sizeMembers members + 1
  | _ => 1

def sizeItems : List Json → ℕ
  | [] => 0
  | item :: items => size item + sizeItems items + 1

def sizeMembers : List (String × Json) → ℕ
  | [] => 0
  | member :: members => size member.2 + sizeMembers members + 1

end

def BeginsValue (c : Char) : Prop :=
  isBlankChar c = false ∧ c ≠ ']' ∧ c ≠ '}'

theorem beginsValue_of_isDigit (hdigit : c.isDigit = true) : BeginsValue c := by
  refine ⟨?_, ?_, ?_⟩
  · by_contra hblank
    simp only [isBlankChar, Bool.not_eq_false, Bool.or_eq_true, decide_eq_true_eq] at hblank
    rcases hblank with ((rfl | rfl) | rfl) | rfl <;> revert hdigit <;> decide
  · rintro rfl
    revert hdigit
    decide
  · rintro rfl
    revert hdigit
    decide

theorem renderInt_eq_cons (value : ℤ) :
    ∃ c text, renderInt value = c :: text ∧ (c = '-' ∨ c.isDigit = true) := by
  unfold renderInt
  by_cases hneg : value < 0
  · rw [if_pos hneg]
    exact ⟨'-', _, rfl, .inl rfl⟩
  · rw [if_neg hneg]
    cases hdigits : Nat.toDigits 10 value.natAbs with
    | nil => exact absurd hdigits Nat.toDigits_ne_nil
    | cons c digits =>
        refine ⟨c, digits, rfl, .inr ?_⟩
        apply Nat.isDigit_of_mem_toDigits (b := 10) (by omega) (by omega)
        rw [hdigits]
        exact List.mem_cons_self

theorem render_eq_cons (value : Json) :
    ∃ c text, render value = c :: text ∧ BeginsValue c := by
  cases value with
  | null => exact ⟨'n', _, rfl, by decide, by decide, by decide⟩
  | bool value =>
      cases value
      · exact ⟨'f', _, rfl, by decide, by decide, by decide⟩
      · exact ⟨'t', _, rfl, by decide, by decide, by decide⟩
  | int value =>
      obtain ⟨c, text, heq, hc⟩ := renderInt_eq_cons value
      refine ⟨c, text, by rw [render, heq], ?_⟩
      rcases hc with rfl | hdigit
      · exact ⟨by decide, by decide, by decide⟩
      · exact beginsValue_of_isDigit hdigit
  | str value => exact ⟨'"', _, by rw [render, renderString], by decide, by decide, by decide⟩
  | arr items =>
      cases items with
      | nil => exact ⟨'[', _, rfl, by decide, by decide, by decide⟩
      | cons item items => exact ⟨'[', _, by rw [render], by decide, by decide, by decide⟩
  | obj members =>
      cases members with
      | nil => exact ⟨'{', _, rfl, by decide, by decide, by decide⟩
      | cons member members =>
          exact ⟨'{', _, by rw [render], by decide, by decide, by decide⟩

theorem skipBlanks_cons (hc : isBlankChar c = false) :
    skipBlanks (c :: rest) = c :: rest := by
  simp [skipBlanks, hc]

theorem noDigitAhead_renderItems (items : List Json) (rest : List Char) :
    NoDigitAhead (renderItems items ++ rest) := by
  cases items with
  | nil => exact noDigitAhead_cons (by decide)
  | cons item items =>
      rw [renderItems]
      exact noDigitAhead_cons (by decide)

theorem noDigitAhead_renderMembers (members : List (String × Json)) (rest : List Char) :
    NoDigitAhead (renderMembers members ++ rest) := by
  cases members with
  | nil => exact noDigitAhead_cons (by decide)
  | cons member members =>
      rw [renderMembers]
      exact noDigitAhead_cons (by decide)

theorem readValue_renderInt (value : ℤ) (fuel : ℕ) (hrest : NoDigitAhead rest) :
    readValue (fuel + 1) (renderInt value ++ rest) = some (.int value, rest) := by
  obtain ⟨c, text, heq, hc⟩ := renderInt_eq_cons value
  have hread := readInt_renderInt value hrest
  have hblank : isBlankChar c = false := by
    rcases hc with rfl | hdigit
    · decide
    · exact (beginsValue_of_isDigit hdigit).1
  rw [heq, List.cons_append] at hread ⊢
  have hother : ∀ head, head ∈ ['n', 't', 'f', '"', '[', '{'] → c ≠ head := by
    rintro head hhead rfl
    rcases hc with rfl | hdigit
    · revert hhead
      decide
    · simp only [List.mem_cons, List.not_mem_nil, or_false] at hhead
      rcases hhead with rfl | rfl | rfl | rfl | rfl | rfl <;> revert hdigit <;> decide
  rw [readValue, skipBlanks_cons hblank]
  split
  all_goals first
    | rw [hread]; rfl
    | next hcons =>
        simp only [List.cons.injEq] at hcons
        exact absurd hcons.1 (hother _ (by simp))

mutual

theorem readValue_render {value : Json} {fuel : ℕ} {rest : List Char}
    (hvalue : DistinctNames value) (hfuel : size value ≤ fuel)
    (hrest : NoDigitAhead rest) :
    readValue fuel (render value ++ rest) = some (value, rest) := by
  cases fuel with
  | zero => cases value <;> simp [size] at hfuel
  | succ fuel =>
      cases value with
      | null => rfl
      | bool value => cases value <;> rfl
      | int value => rw [render, readValue_renderInt value fuel hrest]
      | str value =>
          have hread := readString_renderString value rest
          simp [render, renderString, readValue, skipBlanks, isBlankChar, hread]
      | arr items =>
          cases hvalue with
          | arr hitems =>
              cases items with
              | nil => rfl
              | cons item items =>
                  obtain ⟨c, text, heq, hc⟩ := render_eq_cons item
                  have hread := readItems_render item items rest hitems
                    (show sizeItems (item :: items) ≤ fuel by simp [size] at hfuel; omega)
                  rw [heq] at hread
                  simp only [List.cons_append] at hread
                  simp only [render, heq, List.cons_append, readValue,
                    skipBlanks_cons (show isBlankChar '[' = false by decide),
                    skipBlanks_cons hc.1, List.append_assoc]
                  split
                  · next hclose => simp [hc.2.1] at hclose
                  · rw [hread]
                    rfl
      | obj members =>
          cases hvalue with
          | obj hnames hmembers =>
              cases members with
              | nil => rfl
              | cons member members =>
                  obtain ⟨name, value⟩ := member
                  have hread := readMembers_render name value members rest hmembers
                    (show sizeMembers ((name, value) :: members) ≤ fuel by
                      simp [size] at hfuel; omega)
                  simp only [renderString, List.cons_append, List.append_assoc,
                    List.nil_append] at hread
                  simp only [render, renderString, List.cons_append, readValue,
                    skipBlanks_cons (show isBlankChar '{' = false by decide),
                    skipBlanks_cons (show isBlankChar '"' = false by decide),
                    List.append_assoc, List.nil_append]
                  split
                  · next hclose => simp at hclose
                  · rw [hread, Option.map_some, dictionary_of_nodup hnames]
termination_by fuel

theorem readItems_render (item : Json) (items : List Json) {fuel : ℕ} (rest : List Char)
    (hitems : ∀ other ∈ item :: items, DistinctNames other)
    (hfuel : sizeItems (item :: items) ≤ fuel) :
    readItems fuel (render item ++ (renderItems items ++ rest)) =
      some (item :: items, rest) := by
  cases fuel with
  | zero => simp [sizeItems] at hfuel
  | succ fuel =>
      have hhead := readValue_render (hitems item (by simp))
        (show size item ≤ fuel by simp [sizeItems] at hfuel; omega)
        (noDigitAhead_renderItems items rest)
      rw [readItems, hhead]
      cases items with
      | nil => rfl
      | cons next items =>
          have htail := readItems_render next items rest
            (fun other hother => hitems other (List.mem_cons_of_mem _ hother))
            (show sizeItems (next :: items) ≤ fuel by simp [sizeItems] at hfuel ⊢; omega)
          simp only [renderItems, List.cons_append, List.append_assoc,
            skipBlanks_cons (show isBlankChar ',' = false by decide)]
          rw [htail]
          rfl
termination_by fuel

theorem readMembers_render (name : String) (value : Json) (members : List (String × Json))
    {fuel : ℕ} (rest : List Char)
    (hmembers : ∀ other ∈ (name, value) :: members, DistinctNames other.2)
    (hfuel : sizeMembers ((name, value) :: members) ≤ fuel) :
    readMembers fuel
        (renderString name ++ ':' :: (render value ++ (renderMembers members ++ rest))) =
      some ((name, value) :: members, rest) := by
  cases fuel with
  | zero => simp [sizeMembers] at hfuel
  | succ fuel =>
      have hhead := readValue_render (hmembers (name, value) (by simp))
        (show size value ≤ fuel by simp [sizeMembers] at hfuel; omega)
        (noDigitAhead_renderMembers members rest)
      have hname := readString_renderString name
        (':' :: (render value ++ (renderMembers members ++ rest)))
      simp only [renderString, List.cons_append, List.append_assoc, List.nil_append, readMembers,
        skipBlanks_cons (show isBlankChar '"' = false by decide), hname,
        skipBlanks_cons (show isBlankChar ':' = false by decide), hhead]
      cases members with
      | nil => rfl
      | cons next members =>
          have htail := readMembers_render next.1 next.2 members rest
            (fun other hother => hmembers other (List.mem_cons_of_mem _ hother))
            (show sizeMembers (next :: members) ≤ fuel by simp [sizeMembers] at hfuel ⊢; omega)
          simp only [renderMembers, List.cons_append, List.append_assoc,
            skipBlanks_cons (show isBlankChar ',' = false by decide)]
          rw [htail]
          rfl
termination_by fuel

end

mutual

theorem size_le_length (value : Json) : size value ≤ (render value).length := by
  cases value with
  | null => simp [size, render]
  | bool value => cases value <;> simp [size, render]
  | int value =>
      obtain ⟨c, text, heq, -⟩ := renderInt_eq_cons value
      simp [size, render, heq]
  | str value => simp [size, render, renderString]
  | arr items =>
      cases items with
      | nil => simp [size, sizeItems, render]
      | cons item items =>
          have hhead := size_le_length item
          have htail := sizeItems_lt_length items
          simp only [size, sizeItems, render, List.length_cons, List.length_append]
          omega
  | obj members =>
      cases members with
      | nil => simp [size, sizeMembers, render]
      | cons member members =>
          have hhead := size_le_length member.2
          have htail := sizeMembers_lt_length members
          simp only [size, sizeMembers, render, List.length_cons, List.length_append]
          omega

theorem sizeItems_lt_length (items : List Json) :
    sizeItems items < (renderItems items).length := by
  cases items with
  | nil => simp [sizeItems, renderItems]
  | cons item items =>
      have hhead := size_le_length item
      have htail := sizeItems_lt_length items
      simp only [sizeItems, renderItems, List.length_cons, List.length_append]
      omega

theorem sizeMembers_lt_length (members : List (String × Json)) :
    sizeMembers members < (renderMembers members).length := by
  cases members with
  | nil => simp [sizeMembers, renderMembers]
  | cons member members =>
      have hhead := size_le_length member.2
      have htail := sizeMembers_lt_length members
      simp only [sizeMembers, renderMembers, List.length_cons, List.length_append]
      omega

end

theorem sortItems_eq_map (items : List Json) : sortItems items = items.map sortKeys := by
  induction items with
  | nil => rfl
  | cons item items ih => rw [sortItems, ih, List.map_cons]

theorem sortMembers_eq_map (members : List (String × Json)) :
    sortMembers members = members.map fun member => (member.1, sortKeys member.2) := by
  induction members with
  | nil => rfl
  | cons member members ih => rw [sortMembers, ih, List.map_cons]

@[simp] theorem map_fst_sortMembers (members : List (String × Json)) :
    (sortMembers members).map Prod.fst = members.map Prod.fst := by
  simp [sortMembers_eq_map]

theorem distinctNames_sortKeys {value : Json} (hvalue : DistinctNames value) :
    DistinctNames (sortKeys value) := by
  induction hvalue with
  | null => exact .null
  | bool value => exact .bool value
  | int value => exact .int value
  | str value => exact .str value
  | arr hitems ih =>
      rw [sortKeys, sortItems_eq_map]
      refine .arr fun item hitem => ?_
      obtain ⟨source, hsource, rfl⟩ := List.mem_map.mp hitem
      exact ih source hsource
  | obj hnames hmembers ih =>
      rw [sortKeys]
      refine .obj ?_ fun member hmember => ?_
      · rw [((sortedBy_perm _ _).map Prod.fst).nodup_iff, map_fst_sortMembers]
        exact hnames
      · rw [mem_sortedBy, sortMembers_eq_map] at hmember
        obtain ⟨source, hsource, rfl⟩ := List.mem_map.mp hmember
        exact ih source hsource

/-- A value with distinct names is read back, with its names in order. -/
theorem loads_dumps {value : Json} (hvalue : DistinctNames value) :
    loads (dumps value) = some (sortKeys value) := by
  have hsize := size_le_length (sortKeys value)
  have hread := readValue_render (distinctNames_sortKeys hvalue)
    (show size (sortKeys value) ≤ (render (sortKeys value)).length + 1 by omega)
    noDigitAhead_nil
  rw [List.append_nil] at hread
  simp [loads, dumps, hread, skipBlanks]

/-! ## Members by name -/

def member? (members : List (String × Json)) (name : String) : Option Json :=
  (leader? Prod.fst members name).map Prod.snd

theorem leader?_sortMembers (hnames : (members.map Prod.fst).Nodup) (name : String) :
    leader? Prod.fst (sortedBy Prod.fst (sortMembers members)) name =
      leader? Prod.fst (sortMembers members) name := by
  have hsorted := (sortedBy_perm Prod.fst (sortMembers members)).map Prod.fst
  have hnames' : ((sortMembers members).map Prod.fst).Nodup := by simpa using hnames
  ext member
  simp only [leader?_eq_some_iff hnames',
    leader?_eq_some_iff (hsorted.nodup_iff.mpr hnames'), mem_sortedBy]

theorem member?_sortKeys (hnames : (members.map Prod.fst).Nodup) (name : String) :
    member? (sortedBy Prod.fst (sortMembers members)) name =
      (member? members name).map sortKeys := by
  rw [member?, leader?_sortMembers hnames]
  clear hnames
  induction members with
  | nil => rfl
  | cons member members ih =>
      by_cases heq : member.1 = name
      · simp [member?, leader?, sortMembers, heq]
      · simp only [member?, leader?] at ih
        simp [member?, leader?, sortMembers, heq, ih]

end JsonText
