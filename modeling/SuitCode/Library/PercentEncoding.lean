import Mathlib.Data.List.Basic
import Mathlib.Data.List.TakeWhile
import Mathlib.Data.Nat.Notation

/-!
# Percent encoding

Quoting writes the bytes of a text as ASCII characters, those outside a safe set as `%`
and two hexadecimal digits.  Unquoting reads them back, and leaves everything alone which
only begins like an escape.  Bytes which are no UTF-8 are replaced.
-/

namespace PercentEncoding

/-! ## Bytes and characters -/

/-- `text.encode("utf-8")`. -/
def utf8Bytes (chars : List Char) : List UInt8 := chars.flatMap String.utf8EncodeChar

def isContinuation (low high : ℕ) : List UInt8 → Bool
  | [] => false
  | byte :: _ => low ≤ byte.toNat && byte.toNat ≤ high

def brokenLength (lead : UInt8) (rest : List UInt8) : ℕ :=
  let second := fun low high => if isContinuation low high rest then 2 else 1
  if lead.toNat = 0xe0 then second 0xa0 0xbf
  else if lead.toNat = 0xed then second 0x80 0x9f
  else if 0xe1 ≤ lead.toNat && lead.toNat ≤ 0xef then second 0x80 0xbf
  else
    let third := fun low high =>
      if isContinuation low high rest then
        if isContinuation 0x80 0xbf (rest.drop 1) then 3 else 2
      else 1
    if lead.toNat = 0xf0 then third 0x90 0xbf
    else if 0xf1 ≤ lead.toNat && lead.toNat ≤ 0xf3 then third 0x80 0xbf
    else if lead.toNat = 0xf4 then third 0x80 0x8f
    else 1

/-- `bytes.decode("utf-8", "replace")`. -/
def decodeReplacing : List UInt8 → List Char
  | [] => []
  | byte :: rest =>
      match (byte :: rest).toByteArray.utf8DecodeChar? 0 with
      | some c => c :: decodeReplacing (rest.drop (c.utf8Size - 1))
      | none => '\ufffd' :: decodeReplacing (rest.drop (brokenLength byte rest - 1))
termination_by bytes => bytes.length
decreasing_by all_goals simp only [List.length_drop, List.length_cons]; omega

theorem decodeReplacing_encode (c : Char) (rest : List UInt8) :
    decodeReplacing (String.utf8EncodeChar c ++ rest) = c :: decodeReplacing rest := by
  have hlength : (String.utf8EncodeChar c).length = c.utf8Size := String.length_utf8EncodeChar c
  have hpos := c.utf8Size_pos
  cases hbytes : String.utf8EncodeChar c with
  | nil =>
      rw [hbytes] at hlength
      simp only [List.length_nil] at hlength
      omega
  | cons byte bytes =>
      have hdecode : (byte :: (bytes ++ rest)).toByteArray.utf8DecodeChar? 0 = some c := by
        have hchar := ByteArray.utf8DecodeChar?_utf8EncodeChar_append (c := c)
          (b := rest.toByteArray)
        rw [hbytes, ← List.toByteArray_append] at hchar
        exact hchar
      rw [List.cons_append, decodeReplacing, hdecode]
      rw [hbytes, List.length_cons] at hlength
      have hdrop : (bytes ++ rest).drop (c.utf8Size - 1) = rest := by
        rw [← hlength, Nat.add_sub_cancel, List.drop_left]
      simp only [hdrop]

theorem decodeReplacing_utf8Bytes (chars : List Char) :
    decodeReplacing (utf8Bytes chars) = chars := by
  induction chars with
  | nil => simp [utf8Bytes, decodeReplacing]
  | cons c chars ih =>
      have hcons : utf8Bytes (c :: chars) = String.utf8EncodeChar c ++ utf8Bytes chars := by
        rw [utf8Bytes, List.flatMap_cons]
        rfl
      rw [hcons, decodeReplacing_encode, ih]

def isAscii (c : Char) : Bool := c.toNat < 128

variable {c : Char} {chars : List Char}

theorem utf8EncodeChar_of_isAscii (hc : isAscii c = true) :
    String.utf8EncodeChar c = [UInt8.ofNat c.toNat] := by
  have hlt : c.toNat < 128 := of_decide_eq_true hc
  have hsize : c.utf8Size = 1 := by
    rw [Char.utf8Size_eq_one_iff]
    exact UInt32.le_iff_toNat_le.mpr (by
      change c.toNat ≤ 127
      omega)
  rw [String.utf8EncodeChar_eq_singleton hsize]
  rfl

theorem utf8Bytes_of_isAscii (hchars : ∀ c ∈ chars, isAscii c = true) :
    utf8Bytes chars = chars.map fun c => UInt8.ofNat c.toNat := by
  induction chars with
  | nil => rfl
  | cons c chars ih =>
      rw [utf8Bytes, List.flatMap_cons, utf8EncodeChar_of_isAscii (hchars c List.mem_cons_self),
        List.map_cons]
      exact congrArg _ (ih fun later hlater => hchars later (List.mem_cons_of_mem _ hlater))

/-! ## Quoting -/

def isSafeByte (byte : UInt8) : Bool :=
  let c := Char.ofNat byte.toNat
  isAscii c && (c.isAlphanum || c ∈ ['_', '.', '-', '~', '/'])

def upperHexDigit (n : ℕ) : Char := (Nat.digitChar n).toUpper

def quoteByte (byte : UInt8) : List Char :=
  if isSafeByte byte then [Char.ofNat byte.toNat]
  else ['%', upperHexDigit (byte.toNat / 16), upperHexDigit (byte.toNat % 16)]

/-- `quote_from_bytes(bytes)`. -/
def quoteBytes (bytes : List UInt8) : List Char := bytes.flatMap quoteByte

/-! ## Unquoting -/

def hexValue (c : Char) : Option ℕ :=
  if '0' ≤ c && c ≤ '9' then some (c.toNat - '0'.toNat)
  else if 'a' ≤ c && c ≤ 'f' then some (c.toNat - 'a'.toNat + 10)
  else if 'A' ≤ c && c ≤ 'F' then some (c.toNat - 'A'.toNat + 10)
  else none

/-- `unquote_to_bytes(text)` of an ASCII text. -/
def percentBytes : List Char → List UInt8
  | [] => []
  | '%' :: high :: low :: rest =>
      match hexValue high, hexValue low with
      | some h, some l => UInt8.ofNat (16 * h + l) :: percentBytes rest
      | _, _ => UInt8.ofNat '%'.toNat :: percentBytes (high :: low :: rest)
  | c :: rest => UInt8.ofNat c.toNat :: percentBytes rest

/-- `unquote(text)`, with the ASCII characters since the last other one. -/
def unquoteFrom (run : List Char) : List Char → List Char
  | [] => decodeReplacing (percentBytes run)
  | c :: rest =>
      if isAscii c then unquoteFrom (run ++ [c]) rest
      else decodeReplacing (percentBytes run) ++ c :: unquoteFrom [] rest

/-- `unquote(text)`. -/
def unquote (text : String) : String := String.ofList (unquoteFrom [] text.toList)

/-- A percent sign with two hexadecimal digits behind it. -/
def HasEscape (chars : List Char) : Prop :=
  ∃ before high low after, chars = before ++ '%' :: high :: low :: after ∧
    (hexValue high).isSome ∧ (hexValue low).isSome

theorem percentBytes_cons_of_ne (hc : c ≠ '%') (rest : List Char) :
    percentBytes (c :: rest) = UInt8.ofNat c.toNat :: percentBytes rest := by
  cases rest with
  | nil => simp [percentBytes]
  | cons first rest =>
      cases rest with
      | nil => simp [percentBytes]
      | cons second rest => simp [percentBytes, hc]

/-! ## Reading back what was quoted -/

theorem hexValue_upperHexDigit : ∀ n < 16, hexValue (upperHexDigit n) = some n := by decide

theorem isAscii_upperHexDigit : ∀ n < 16, isAscii (upperHexDigit n) = true := by decide

theorem safeByte_facts {byte : UInt8} (hsafe : isSafeByte byte = true) :
    isAscii (Char.ofNat byte.toNat) = true ∧ Char.ofNat byte.toNat ≠ '%' ∧
      UInt8.ofNat (Char.ofNat byte.toNat).toNat = byte := by
  unfold isSafeByte at hsafe
  simp only [Bool.and_eq_true] at hsafe
  have hlt : byte.toNat < 256 := byte.toNat_lt
  have hvalid : byte.toNat.isValidChar := .inl (by omega)
  refine ⟨hsafe.1, ?_, ?_⟩
  · intro heq
    rw [heq] at hsafe
    exact absurd hsafe.2 (by decide)
  · have hchar : (Char.ofNat byte.toNat).toNat = byte.toNat := by
      rw [Char.ofNat, dif_pos hvalid]
      rfl
    rw [hchar, UInt8.ofNat_toNat]

theorem percentBytes_quoteByte (byte : UInt8) (rest : List Char) :
    percentBytes (quoteByte byte ++ rest) = byte :: percentBytes rest := by
  unfold quoteByte
  cases hsafe : isSafeByte byte with
  | true =>
      obtain ⟨-, hne, hbyte⟩ := safeByte_facts hsafe
      rw [if_pos rfl, List.singleton_append, percentBytes_cons_of_ne hne, hbyte]
  | false =>
      have hlt : byte.toNat < 256 := byte.toNat_lt
      have hhigh := hexValue_upperHexDigit (byte.toNat / 16) (by omega)
      have hlow := hexValue_upperHexDigit (byte.toNat % 16) (by omega)
      have hbyte : UInt8.ofNat (16 * (byte.toNat / 16) + byte.toNat % 16) = byte := by
        rw [Nat.div_add_mod]
        simp
      simp only [Bool.false_eq_true, if_false, List.cons_append, List.nil_append, percentBytes,
        hhigh, hlow, hbyte]

theorem percentBytes_quoteBytes (bytes : List UInt8) : percentBytes (quoteBytes bytes) = bytes := by
  induction bytes with
  | nil => rfl
  | cons byte bytes ih =>
      have hcons : quoteBytes (byte :: bytes) = quoteByte byte ++ quoteBytes bytes := by
        rw [quoteBytes, List.flatMap_cons]
        rfl
      rw [hcons, percentBytes_quoteByte, ih]

theorem isAscii_of_mem_quoteByte {byte : UInt8} (hc : c ∈ quoteByte byte) :
    isAscii c = true := by
  unfold quoteByte at hc
  cases hsafe : isSafeByte byte with
  | true =>
      rw [hsafe, if_pos rfl, List.mem_singleton] at hc
      rw [hc]
      exact (safeByte_facts hsafe).1
  | false =>
      have hlt : byte.toNat < 256 := byte.toNat_lt
      simp only [hsafe, Bool.false_eq_true, if_false, List.mem_cons, List.not_mem_nil,
        or_false] at hc
      rcases hc with rfl | rfl | rfl
      · decide
      · exact isAscii_upperHexDigit _ (by omega)
      · exact isAscii_upperHexDigit _ (by omega)

theorem unquoteFrom_of_isAscii {run : List Char} (hchars : ∀ c ∈ chars, isAscii c = true) :
    unquoteFrom run chars = decodeReplacing (percentBytes (run ++ chars)) := by
  induction chars generalizing run with
  | nil => simp [unquoteFrom]
  | cons c chars ih =>
      rw [unquoteFrom, if_pos (hchars c List.mem_cons_self),
        ih fun later hlater => hchars later (List.mem_cons_of_mem _ hlater)]
      simp

theorem unquote_quoteBytes (text : String) :
    unquote (String.ofList (quoteBytes (utf8Bytes text.toList))) = text := by
  have hascii : ∀ c ∈ quoteBytes (utf8Bytes text.toList), isAscii c = true := by
    intro c hc
    obtain ⟨byte, -, hmem⟩ := List.mem_flatMap.mp hc
    exact isAscii_of_mem_quoteByte hmem
  unfold unquote
  rw [String.toList_ofList, unquoteFrom_of_isAscii hascii, List.nil_append,
    percentBytes_quoteBytes, decodeReplacing_utf8Bytes, String.ofList_toList]

/-! ## Texts without escapes -/

/-- An escape stays one between other characters. -/
theorem HasEscape.mono (hescape : HasEscape chars) (before after : List Char) :
    HasEscape (before ++ chars ++ after) := by
  obtain ⟨front, high, low, back, rfl, hhigh, hlow⟩ := hescape
  exact ⟨before ++ front, high, low, back ++ after, by simp, hhigh, hlow⟩

theorem percentBytes_of_noEscape (hnone : ¬ HasEscape chars) :
    percentBytes chars = chars.map fun c => UInt8.ofNat c.toNat := by
  induction chars with
  | nil => rfl
  | cons c chars ih =>
      have hrest : ¬ HasEscape chars := by
        intro hescape
        apply hnone
        simpa using hescape.mono [c] []
      rw [List.map_cons, ← ih hrest]
      by_cases hc : c = '%'
      · rw [hc]
        cases chars with
        | nil => simp [percentBytes]
        | cons high chars =>
            cases chars with
            | nil => simp [percentBytes]
            | cons low rest =>
                cases hhigh : hexValue high with
                | none => simp [percentBytes, hhigh]
                | some h =>
                    cases hlow : hexValue low with
                    | none => simp [percentBytes, hhigh, hlow]
                    | some l =>
                        exfalso
                        apply hnone
                        exact ⟨[], high, low, rest, by rw [hc]; rfl, by simp [hhigh],
                          by simp [hlow]⟩
      · exact percentBytes_cons_of_ne hc chars

theorem unquoteFrom_of_noEscape {run : List Char} (hrun : ∀ c ∈ run, isAscii c = true)
    (hnone : ¬ HasEscape (run ++ chars)) :
    unquoteFrom run chars = run ++ chars := by
  have hflush : ∀ run : List Char, (∀ c ∈ run, isAscii c = true) → ¬ HasEscape run →
      decodeReplacing (percentBytes run) = run := by
    intro run hrun hnone
    rw [percentBytes_of_noEscape hnone, ← utf8Bytes_of_isAscii hrun, decodeReplacing_utf8Bytes]
  induction chars generalizing run with
  | nil =>
      rw [List.append_nil] at hnone ⊢
      exact hflush run hrun hnone
  | cons c chars ih =>
      rw [unquoteFrom]
      cases hc : isAscii c with
      | true =>
          rw [if_pos rfl, ih _ (by simpa using hnone)]
          · simp
          · intro other hother
            rcases List.mem_append.mp hother with hrun' | hlast
            · exact hrun other hrun'
            · rw [List.mem_singleton.mp hlast, hc]
      | false =>
          have hfront : ¬ HasEscape run := by
            intro hescape
            apply hnone
            simpa using hescape.mono [] (c :: chars)
          have hback : ¬ HasEscape ([] ++ chars) := by
            intro hescape
            apply hnone
            simpa using hescape.mono (run ++ [c]) []
          rw [if_neg (by simp), hflush run hrun hfront, ih (by simp) hback]
          simp

theorem unquote_of_noEscape {text : String} (hnone : ¬ HasEscape text.toList) :
    unquote text = text := by
  unfold unquote
  rw [unquoteFrom_of_noEscape (by simp) (by simpa using hnone), List.nil_append,
    String.ofList_toList]

end PercentEncoding
