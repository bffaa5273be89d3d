import SuitCode.LspReader
import Mathlib.Data.List.TakeWhile

/-!
# Framing of messages

A message is written as its content length, a blank line and its body.  Messages written
one after another are read back in order, whatever other header lines stand between, and a
stream which is cut off ends in an error behind the messages which are whole.
-/

namespace SuitCode

open ExceptList PosixText

/-! ## Frames -/

/-- The header line `_write_message` writes. -/
def contentLengthLine (length : ℕ) : List UInt8 :=
  asciiBytes ("Content-Length: " ++ toString length ++ "\r\n")

def headerText (line : List UInt8) : String :=
  strip (String.ofList (line.map fun byte => Char.ofNat byte.toNat))

structure IsHeaderLine (line : List UInt8) : Prop where
  ends : ∃ text, line = text ++ [newline] ∧ newline ∉ text
  filled : line ≠ asciiBytes "\r\n" ∧ line ≠ asciiBytes "\n"

structure IsExtraHeader (line : List UInt8) : Prop extends IsHeaderLine line where
  ascii : ∀ byte ∈ line, byte < 128
  other : startsWith (lowerAscii (headerText line)) "content-length:" = false

/-- A message with the header lines around its content length. -/
structure Frame where
  before : List (List UInt8) := []
  after : List (List UInt8) := []
  payload : LspValue

section Framing

/- `json.dumps(payload).encode("utf-8")`, and what reads it. -/
variable (encodeBody : LspValue → List UInt8) (decodeBody : List UInt8 → LspResult LspValue)

def writeMessage (payload : LspValue) : List UInt8 :=
  asciiBytes ("Content-Length: " ++ toString (encodeBody payload).length ++ "\r\n\r\n") ++
    encodeBody payload

def Frame.headers (frame : Frame) : List (List UInt8) :=
  frame.before ++ contentLengthLine (encodeBody frame.payload).length :: frame.after

/-- What `_write_message` writes, with further header lines around its first line. -/
def Frame.bytes (frame : Frame) : List UInt8 :=
  let written := readLine (writeMessage encodeBody frame.payload)
  frame.before.flatten ++ written.1 ++ (frame.after.flatten ++ written.2)

def streamOf (frames : List Frame) : List UInt8 := frames.flatMap (Frame.bytes encodeBody)

/-- Repeated calls of `_read_message`. -/
def readMessages : ℕ → List UInt8 → LspResult (List LspValue) × List UInt8
  | 0, stream => (.ok [], stream)
  | count + 1, stream =>
      match readMessage decodeBody stream with
      | (.error error, rest) => (.error error, rest)
      | (.ok payload, rest) =>
          match readMessages count rest with
          | (.error error, rest) => (.error error, rest)
          | (.ok payloads, rest) => (.ok (payload :: payloads), rest)

end Framing

variable {text line cut : List UInt8} {lines : List (List UInt8)} {frame : Frame}

/-! ## Lines -/

theorem ne_newline_of_mem (htext : newline ∉ text) :
    ∀ byte ∈ text, decide (byte ≠ newline) = true := by
  intro byte hbyte
  rw [decide_eq_true_eq]
  rintro rfl
  exact htext hbyte

theorem readLine_append (htext : newline ∉ text) (rest : List UInt8) :
    readLine (text ++ newline :: rest) = (text ++ [newline], rest) := by
  have hkept := ne_newline_of_mem htext
  unfold readLine
  rw [List.dropWhile_append_of_pos hkept, List.takeWhile_append_of_pos hkept]
  simp

theorem readLine_of_cut (htext : newline ∉ text) :
    readLine text = (text, []) := by
  have hkept := ne_newline_of_mem htext
  unfold readLine
  rw [List.dropWhile_eq_nil_iff.mpr hkept]

theorem readHeaders_line (hline : IsHeaderLine line) (contentLength : Option ℤ) (rest : List UInt8) :
    readHeaders contentLength (line ++ rest) =
      match readHeader contentLength line with
      | .error error => (.error error, rest)
      | .ok contentLength => readHeaders contentLength rest := by
  obtain ⟨text, hends, htext⟩ := hline.ends
  have hread : readLine (line ++ rest) = (line, rest) := by
    rw [hends, List.append_assoc, List.singleton_append, readLine_append htext]
  have hsome : line ≠ [] := by
    rw [hends]
    simp
  have hblank : ¬ (line = asciiBytes "\r\n" ∨ line = asciiBytes "\n") := by
    intro hblank
    exact hblank.elim hline.filled.1 hline.filled.2
  cases hheader : readHeader contentLength line with
  | error error =>
      rw [readHeaders]
      simp only [hread, dif_neg hsome, if_neg hblank, hheader]
  | ok found =>
      rw [readHeaders]
      simp only [hread, dif_neg hsome, if_neg hblank, hheader]

theorem readHeaders_blank (contentLength : Option ℤ) (rest : List UInt8) :
    readHeaders contentLength (asciiBytes "\r\n" ++ rest) = (.ok contentLength, rest) := by
  have hread : readLine (asciiBytes "\r\n" ++ rest) = (asciiBytes "\r\n", rest) :=
    readLine_append (by decide : newline ∉ [(13 : UInt8)]) rest
  rw [readHeaders]
  simp only [hread]
  rw [dif_neg (by decide), if_pos (.inl trivial)]

theorem readHeaders_of_cut (htext : newline ∉ text) (contentLength : Option ℤ) :
    ∃ error, (readHeaders contentLength text).1 = .error error := by
  have hend : ∀ contentLength : Option ℤ,
      ∃ error, (readHeaders contentLength []).1 = .error error := by
    intro contentLength
    rw [readHeaders]
    exact ⟨_, rfl⟩
  have hread := readLine_of_cut htext
  have hblank : ¬ (text = asciiBytes "\r\n" ∨ text = asciiBytes "\n") := by
    rintro (rfl | rfl)
    · exact htext (by decide)
    · exact htext (by decide)
  by_cases hnil : text = []
  · rw [hnil]
    exact hend contentLength
  · rw [readHeaders]
    simp only [hread, dif_neg hnil, if_neg hblank]
    cases readHeader contentLength text with
    | error error => exact ⟨error, rfl⟩
    | ok contentLength => exact hend contentLength

theorem newline_not_mem_of_cut (htext : newline ∉ text) (hcut : cut <+: text ++ [newline])
    (hne : cut ≠ text ++ [newline]) : newline ∉ cut := by
  rw [List.prefix_concat_iff] at hcut
  intro hmem
  exact htext ((hcut.resolve_left hne).subset hmem)

theorem readHeaders_of_cut_lines (hlines : ∀ line ∈ lines, IsHeaderLine line)
    (hcut : cut <+: lines.flatten ++ asciiBytes "\r\n")
    (hne : cut ≠ lines.flatten ++ asciiBytes "\r\n") (contentLength : Option ℤ) :
    ∃ error, (readHeaders contentLength cut).1 = .error error := by
  induction lines generalizing cut contentLength with
  | nil =>
      apply readHeaders_of_cut
      exact newline_not_mem_of_cut (by decide : newline ∉ [(13 : UInt8)]) hcut hne
  | cons line lines ih =>
      have hline := hlines line List.mem_cons_self
      rw [List.flatten_cons, List.append_assoc] at hcut hne
      by_cases hwhole : line <+: cut
      · obtain ⟨rest, rfl⟩ := hwhole
        rw [List.prefix_append_right_inj] at hcut
        rw [readHeaders_line hline]
        cases readHeader contentLength line with
        | error error => exact ⟨error, rfl⟩
        | ok contentLength =>
            apply ih (fun later hlater => hlines later (List.mem_cons_of_mem _ hlater)) hcut
            intro heq
            exact hne (by rw [heq])
      · have hpart : cut <+: line :=
          (List.prefix_or_prefix_of_prefix hcut (List.prefix_append _ _)).resolve_right hwhole
        obtain ⟨text, hends, htext⟩ := hline.ends
        apply readHeaders_of_cut
        apply newline_not_mem_of_cut htext
        · rw [← hends]
          exact hpart
        · rw [← hends]
          rintro rfl
          exact hwhole List.prefix_rfl

theorem readHeaders_of_lines (hlines : ∀ line ∈ lines, IsHeaderLine line)
    {contentLength found : Option ℤ} (hfound : lines.foldlM readHeader contentLength = .ok found)
    (rest : List UInt8) :
    readHeaders contentLength (lines.flatten ++ asciiBytes "\r\n" ++ rest) =
      (.ok found, rest) := by
  induction lines generalizing contentLength with
  | nil =>
      rw [List.foldlM_nil, pure_eq_ok] at hfound
      rw [hfound]
      exact readHeaders_blank found rest
  | cons line lines ih =>
      rw [List.foldlM_cons] at hfound
      obtain ⟨next, hnext, hlater⟩ := bind_eq_ok.mp hfound
      rw [List.flatten_cons, List.append_assoc, List.append_assoc,
        readHeaders_line (hlines line List.mem_cons_self), hnext, ← List.append_assoc]
      exact ih (fun later hmem => hlines later (List.mem_cons_of_mem _ hmem)) hlater

/-! ## The content length -/

theorem parseDigits_toDigits (length : ℕ) :
    parseDigits (Nat.toDigits 10 length) = some length := by
  have hdigits : ∀ c ∈ Nat.toDigits 10 length, c.isDigit = true := fun c hc =>
    Nat.isDigit_of_mem_toDigits (by omega) (by omega) hc
  have hsplit : (Nat.toDigits 10 length).splitOn '_' = [Nat.toDigits 10 length] := by
    apply List.splitOn_eq_singleton
    intro hmem
    exact absurd (hdigits '_' hmem) (by decide)
  have hvalue : Nat.ofDigitChars 10 (Nat.toDigits 10 length) 0 = length :=
    Nat.ofDigitChars_ten_toDigits
  have hsome : (Nat.toDigits 10 length).isEmpty = false := by
    rw [List.isEmpty_eq_false_iff]
    exact Nat.toDigits_ne_nil
  have hall : (Nat.toDigits 10 length).all Char.isDigit = true := by
    rw [List.all_eq_true]
    exact hdigits
  unfold parseDigits
  simp [hsplit, hsome, hall, hvalue]

theorem toList_toString (length : ℕ) : (toString length).toList = Nat.toDigits 10 length := by
  simp [toString, Nat.repr]

theorem digit_facts {length : ℕ} {c : Char} (hc : c ∈ Nat.toDigits 10 length) :
    isSpace c = false ∧ c ≠ '-' ∧ c ≠ '+' ∧ c.toNat < 128 ∧ c ≠ '\n' := by
  have hdigit : c.isDigit = true := Nat.isDigit_of_mem_toDigits (by omega) (by omega) hc
  have hrange : 48 ≤ c.toNat ∧ c.toNat ≤ 57 := by
    simpa [Char.isDigit, UInt32.le_iff_toNat_le] using hdigit
  refine ⟨?_, ?_, ?_, by omega, ?_⟩
  · unfold isSpace
    simp
    omega
  all_goals
    rintro rfl
    simp at hrange

theorem strip_between {front middle back : List Char} (hfront : ∀ c ∈ front, isSpace c = true)
    (hback : ∀ c ∈ back, isSpace c = true) (hfirst : ∀ c ∈ middle.head?, isSpace c = false)
    (hlast : ∀ c ∈ middle.getLast?, isSpace c = false) (hne : middle ≠ []) :
    strip (String.ofList (front ++ middle ++ back)) = String.ofList middle := by
  cases middle with
  | nil => exact absurd rfl hne
  | cons first rest =>
      have hfirst' : isSpace first = false := hfirst first rfl
      have hdropped : (front ++ first :: rest ++ back).dropWhile isSpace =
          first :: rest ++ back := by
        rw [List.append_assoc, List.dropWhile_append_of_pos hfront, List.cons_append,
          List.dropWhile_cons_of_neg (by simp [hfirst'])]
      have hback' : ∀ c ∈ back.reverse, isSpace c = true := by
        intro c hc
        exact hback c (List.mem_reverse.mp hc)
      have hkept : (first :: rest).reverse.dropWhile isSpace = (first :: rest).reverse := by
        rw [List.dropWhile_eq_self_iff]
        intro hlength
        rw [Bool.not_eq_true]
        apply hlast
        rw [← List.head?_reverse, List.head?_eq_getElem?]
        exact List.getElem?_eq_getElem hlength
      unfold strip
      rw [String.toList_ofList, hdropped, List.reverse_append,
        List.dropWhile_append_of_pos hback', hkept, List.reverse_reverse]

theorem strip_digits (front : List Char) (length : ℕ) (back : List Char)
    (hfront : ∀ c ∈ front, isSpace c = true) (hback : ∀ c ∈ back, isSpace c = true) :
    strip (String.ofList (front ++ Nat.toDigits 10 length ++ back)) = toString length := by
  rw [strip_between hfront hback]
  · rw [← toList_toString, String.ofList_toList]
  · intro c hc
    exact (digit_facts (List.mem_of_mem_head? hc)).1
  · intro c hc
    exact (digit_facts (List.mem_of_mem_getLast? hc)).1
  · exact Nat.toDigits_ne_nil

theorem parseInt_toString (length : ℕ) : parseInt (toString length) = .ok (length : ℤ) := by
  have hstrip : strip (toString length) = toString length := by
    have h := strip_digits [] length [] (by simp) (by simp)
    rwa [List.nil_append, List.append_nil, ← toList_toString, String.ofList_toList] at h
  unfold parseInt
  rw [hstrip, toList_toString]
  cases hdigits : Nat.toDigits 10 length with
  | nil => exact absurd hdigits Nat.toDigits_ne_nil
  | cons c digits =>
      have hmem : c ∈ Nat.toDigits 10 length := by
        rw [hdigits]
        exact List.mem_cons_self
      have hfacts := digit_facts hmem
      have hparsed := parseDigits_toDigits length
      rw [hdigits] at hparsed
      split
      · rename_i rest hmatch
        exact absurd (List.cons.inj hmatch).1 hfacts.2.1
      · rename_i rest hmatch
        exact absurd (List.cons.inj hmatch).1 hfacts.2.2.1
      · rw [hparsed]
        rfl

theorem decodeAscii_of_ascii (hascii : ∀ byte ∈ line, byte < 128) :
    decodeAscii line = .ok (String.ofList (line.map fun byte => Char.ofNat byte.toNat)) := by
  have hnone : line.find? (128 ≤ ·) = none := by
    rw [List.find?_eq_none]
    intro byte hbyte
    have hlt := hascii byte hbyte
    simpa using hlt
  unfold decodeAscii
  rw [hnone]
  split
  · rename_i hmatch
    cases hmatch
  · rfl

theorem asciiBytes_lt {text : String} (htext : ∀ c ∈ text.toList, c.toNat < 128) :
    ∀ byte ∈ asciiBytes text, byte < 128 := by
  intro byte hbyte
  unfold asciiBytes at hbyte
  rw [List.mem_map] at hbyte
  obtain ⟨c, hc, rfl⟩ := hbyte
  have hlt := htext c hc
  rw [UInt8.lt_iff_toNat_lt, UInt8.toNat_ofNat']
  simp
  omega

theorem decodeAscii_asciiBytes {text : String} (htext : ∀ c ∈ text.toList, c.toNat < 128) :
    decodeAscii (asciiBytes text) = .ok text := by
  rw [decodeAscii_of_ascii (asciiBytes_lt htext)]
  unfold asciiBytes
  have hchars : (text.toList.map fun c => UInt8.ofNat c.toNat).map
      (fun byte => Char.ofNat byte.toNat) = text.toList := by
    rw [List.map_map]
    conv_rhs => rw [← List.map_id text.toList]
    apply List.map_congr_left
    intro c hc
    have hlt := htext c hc
    have hbyte : (UInt8.ofNat c.toNat).toNat = c.toNat := by
      rw [UInt8.toNat_ofNat']
      omega
    simp [hbyte]
  rw [hchars, String.ofList_toList]

theorem toList_contentLength (length : ℕ) :
    ("Content-Length: " ++ toString length ++ "\r\n").toList =
      "Content-Length: ".toList ++ Nat.toDigits 10 length ++ ['\r', '\n'] := by
  rw [String.toList_append, String.toList_append, toList_toString]
  rfl

theorem contentLength_ascii (length : ℕ) :
    ∀ c ∈ ("Content-Length: " ++ toString length ++ "\r\n").toList, c.toNat < 128 := by
  intro c hc
  rw [toList_contentLength, List.mem_append, List.mem_append] at hc
  cases hc with
  | inl hc =>
      cases hc with
      | inl hname =>
          have hall : "Content-Length: ".toList.all (fun c => c.toNat < 128) = true := by
            decide
          exact of_decide_eq_true (List.all_eq_true.mp hall c hname)
      | inr hdigit => exact (digit_facts hdigit).2.2.2.1
  | inr hend =>
      have hall : ['\r', '\n'].all (fun c => c.toNat < 128) = true := by decide
      exact of_decide_eq_true (List.all_eq_true.mp hall c hend)

theorem strip_contentLength (length : ℕ) :
    strip ("Content-Length: " ++ toString length ++ "\r\n") =
      "Content-Length: " ++ toString length := by
  have hstrip : strip (String.ofList
      ([] ++ ("Content-Length: ".toList ++ Nat.toDigits 10 length) ++ ['\r', '\n'])) =
      String.ofList ("Content-Length: ".toList ++ Nat.toDigits 10 length) := by
    apply strip_between
    · intro c hc
      cases hc
    · exact List.all_eq_true.mp (by decide : ['\r', '\n'].all isSpace = true)
    · intro c hc
      have hfirst : "Content-Length: ".toList.head? = some 'C' := by decide
      rw [List.head?_append_of_ne_nil _ (by decide), hfirst] at hc
      cases hc
      decide
    · intro c hc
      rw [List.getLast?_append_of_ne_nil _ Nat.toDigits_ne_nil] at hc
      exact (digit_facts (List.mem_of_mem_getLast? hc)).1
    · simp
  rw [List.nil_append, ← toList_contentLength, String.ofList_toList] at hstrip
  rw [hstrip, ← toList_toString, ← String.toList_append, String.ofList_toList]

theorem readHeader_contentLengthLine (found : Option ℤ) (length : ℕ) :
    readHeader found (contentLengthLine length) = .ok (some (length : ℤ)) := by
  have hname : startsWith (lowerAscii ("Content-Length: " ++ toString length))
      "content-length:" = true := by
    have hlower : (lowerAscii ("Content-Length: " ++ toString length)).toList =
        "Content-Length: ".toList.map Char.toLower ++
          (toString length).toList.map Char.toLower := by
      unfold lowerAscii
      rw [String.toList_append, List.map_append]
      exact String.toList_ofList
    have hstart : "content-length:".toList.isPrefixOf
        ("Content-Length: ".toList.map Char.toLower) = true := by decide
    unfold startsWith
    rw [hlower, List.isPrefixOf_iff_prefix]
    exact (List.isPrefixOf_iff_prefix.mp hstart).trans (List.prefix_append _ _)
  have hvalue : strip (afterColon ("Content-Length: " ++ toString length)) =
      toString length := by
    have hafter : afterColon ("Content-Length: " ++ toString length) =
        String.ofList ([' '] ++ Nat.toDigits 10 length ++ []) := by
      unfold afterColon
      rw [String.toList_append, toList_toString, List.append_nil]
      rfl
    rw [hafter]
    apply strip_digits [' '] length []
    · exact List.all_eq_true.mp (by decide : [' '].all isSpace = true)
    · simp
  unfold readHeader contentLengthLine
  rw [decodeAscii_asciiBytes (contentLength_ascii length), ok_bind, strip_contentLength]
  simp only [hname, hvalue, parseInt_toString, if_true, ok_bind]
  rfl

theorem isHeaderLine_contentLengthLine (length : ℕ) :
    IsHeaderLine (contentLengthLine length) := by
  have hbytes : contentLengthLine length = asciiBytes "Content-Length: " ++
      (Nat.toDigits 10 length).map (fun c => UInt8.ofNat c.toNat) ++ [13] ++ [newline] := by
    unfold contentLengthLine asciiBytes
    rw [toList_contentLength, List.map_append, List.map_append, List.append_assoc _ [13]]
    rfl
  constructor
  · refine ⟨_, hbytes, ?_⟩
    rw [List.mem_append, List.mem_append, not_or, not_or]
    refine ⟨⟨by decide, ?_⟩, by decide⟩
    intro hmem
    rw [List.mem_map] at hmem
    obtain ⟨c, hc, hbyte⟩ := hmem
    have hfacts := digit_facts hc
    have hvalue := congrArg UInt8.toNat hbyte
    rw [UInt8.toNat_ofNat', newline] at hvalue
    apply hfacts.2.2.2.2
    apply Char.toNat_inj.mp
    have hsmall := hfacts.2.2.2.1
    have hten : (10 : UInt8).toNat = 10 := rfl
    have hchar : '\n'.toNat = 10 := rfl
    omega
  · have hhead : (contentLengthLine length).head? = some 67 := by
      rw [hbytes]
      rfl
    constructor
    · intro heq
      rw [heq] at hhead
      exact absurd hhead (by decide)
    · intro heq
      rw [heq] at hhead
      exact absurd hhead (by decide)

theorem readHeader_extra (hline : IsExtraHeader line) (found : Option ℤ) :
    readHeader found line = .ok found := by
  have hother := hline.other
  unfold headerText at hother
  unfold readHeader
  rw [decodeAscii_of_ascii hline.ascii, ok_bind, if_neg (by rw [hother]; decide)]
  rfl

theorem foldlM_readHeader_extra (hlines : ∀ line ∈ lines, IsExtraHeader line) (found : Option ℤ) :
    lines.foldlM readHeader found = .ok found := by
  induction lines with
  | nil => rfl
  | cons line lines ih =>
      rw [List.foldlM_cons, readHeader_extra (hlines line List.mem_cons_self), ok_bind]
      exact ih fun later hlater => hlines later (List.mem_cons_of_mem _ hlater)

/-! ## Bodies -/

theorem readContent_append (body rest : List UInt8) :
    readContent (body.length : ℤ) (body ++ rest) = (.ok body, rest) := by
  have hpos : ¬ ((body.length : ℤ) < -1) := by omega
  have hsize : ¬ ((body.length : ℤ) = -1) := by omega
  unfold readContent
  simp [hpos, hsize]

theorem readContent_of_cut {length : ℕ} (hcut : cut.length < length) :
    ∃ error, (readContent (length : ℤ) cut).1 = .error error := by
  have hpos : ¬ ((length : ℤ) < -1) := by omega
  have hsize : ¬ ((length : ℤ) = -1) := by omega
  have hshort : ¬ (((cut.take length).length : ℤ) = (length : ℤ)) := by
    rw [List.length_take]
    omega
  unfold readContent
  simp only [if_neg hpos, if_neg hsize, Int.toNat_natCast, if_neg hshort]
  exact ⟨_, rfl⟩

/-! ## Frames in a stream -/

/-- The header lines written around a content length are no content length. -/
def Frame.Extra (frame : Frame) : Prop :=
  (∀ line ∈ frame.before, IsExtraHeader line) ∧ ∀ line ∈ frame.after, IsExtraHeader line

section Stream

variable {encodeBody : LspValue → List UInt8} {decodeBody : List UInt8 → LspResult LspValue}

variable (encodeBody) in
theorem Frame.isHeaderLine (hextra : frame.Extra) :
    ∀ line ∈ frame.headers encodeBody, IsHeaderLine line := by
  intro line hline
  rw [Frame.headers, List.mem_append, List.mem_cons] at hline
  cases hline with
  | inl hbefore => exact (hextra.1 line hbefore).toIsHeaderLine
  | inr hline =>
      cases hline with
      | inl hlength =>
          rw [hlength]
          exact isHeaderLine_contentLengthLine _
      | inr hafter => exact (hextra.2 line hafter).toIsHeaderLine

theorem Frame.foldlM_readHeader (hextra : frame.Extra) :
    (frame.headers encodeBody).foldlM readHeader none =
      .ok (some ((encodeBody frame.payload).length : ℤ)) := by
  rw [Frame.headers, List.foldlM_append, foldlM_readHeader_extra hextra.1, ok_bind,
    List.foldlM_cons, readHeader_contentLengthLine, ok_bind]
  exact foldlM_readHeader_extra hextra.2 _

theorem Frame.readHeaders_bytes (hextra : frame.Extra) (rest : List UInt8) :
    readHeaders none
        ((frame.headers encodeBody).flatten ++ asciiBytes "\r\n" ++ rest) =
      (.ok (some ((encodeBody frame.payload).length : ℤ)), rest) :=
  readHeaders_of_lines (Frame.isHeaderLine encodeBody hextra) (Frame.foldlM_readHeader hextra) rest

theorem asciiBytes_append (front back : String) :
    asciiBytes (front ++ back) = asciiBytes front ++ asciiBytes back := by
  unfold asciiBytes
  rw [String.toList_append, List.map_append]

theorem readLine_writeMessage (payload : LspValue) :
    readLine (writeMessage encodeBody payload) =
      (contentLengthLine (encodeBody payload).length,
        asciiBytes "\r\n" ++ encodeBody payload) := by
  have hblank : "\r\n\r\n" = "\r\n" ++ "\r\n" := rfl
  obtain ⟨text, hends, htext⟩ :=
    (isHeaderLine_contentLengthLine (encodeBody payload).length).ends
  unfold writeMessage
  rw [hblank, ← String.append_assoc, asciiBytes_append, List.append_assoc]
  change readLine (contentLengthLine (encodeBody payload).length ++ _) = _
  rw [hends, List.append_assoc, List.singleton_append, readLine_append htext]

/-- A frame without further header lines is what is written. -/
theorem Frame.bytes_written (payload : LspValue) :
    Frame.bytes encodeBody { payload := payload } = writeMessage encodeBody payload := by
  unfold Frame.bytes
  dsimp only
  rw [List.flatten_nil, List.nil_append, List.nil_append, readLine_parts]

theorem Frame.bytes_eq (frame : Frame) :
    frame.bytes encodeBody =
      (frame.headers encodeBody).flatten ++ asciiBytes "\r\n" ++ encodeBody frame.payload := by
  unfold Frame.bytes Frame.headers
  rw [readLine_writeMessage, List.flatten_append, List.flatten_cons]
  simp only [List.append_assoc]

theorem readMessage_bytes (hextra : frame.Extra)
    (hjson : decodeBody (encodeBody frame.payload) = .ok frame.payload) (rest : List UInt8) :
    readMessage decodeBody (frame.bytes encodeBody ++ rest) = (.ok frame.payload, rest) := by
  unfold readMessage
  rw [Frame.bytes_eq, List.append_assoc, Frame.readHeaders_bytes hextra]
  simp only [readContent_append, hjson]

variable (decodeBody) in
theorem readMessage_of_cut (hextra : frame.Extra) (hcut : cut <+: frame.bytes encodeBody)
    (hne : cut ≠ frame.bytes encodeBody) :
    ∃ error, (readMessage decodeBody cut).1 = .error error := by
  have hlines := Frame.isHeaderLine encodeBody hextra
  rw [Frame.bytes_eq] at hcut hne
  unfold readMessage
  by_cases hwhole : (frame.headers encodeBody).flatten ++ asciiBytes "\r\n" <+: cut
  · obtain ⟨part, rfl⟩ := hwhole
    rw [List.prefix_append_right_inj] at hcut
    rw [Frame.readHeaders_bytes hextra]
    have hshort : part.length < (encodeBody frame.payload).length := by
      apply lt_of_le_of_ne hcut.length_le
      intro hlength
      exact hne (by rw [hcut.eq_of_length hlength])
    obtain ⟨error, herror⟩ := readContent_of_cut hshort
    dsimp only
    split
    · exact ⟨_, rfl⟩
    · rename_i body rest hread
      rw [hread] at herror
      cases herror
  · have hpart := (List.prefix_or_prefix_of_prefix hcut
      (List.prefix_append _ _)).resolve_right hwhole
    have hproper : cut ≠ (frame.headers encodeBody).flatten ++ asciiBytes "\r\n" := by
      rintro rfl
      exact hwhole List.prefix_rfl
    obtain ⟨error, herror⟩ := readHeaders_of_cut_lines hlines hpart hproper none
    split
    · exact ⟨_, rfl⟩
    · rename_i rest hread
      rw [hread] at herror
      cases herror
    · rename_i contentLength rest hread
      rw [hread] at herror
      cases herror

theorem readMessages_streamOf {frames : List Frame} (hextra : ∀ frame ∈ frames, frame.Extra)
    (hjson : ∀ frame ∈ frames, decodeBody (encodeBody frame.payload) = .ok frame.payload)
    (rest : List UInt8) :
    readMessages decodeBody frames.length (streamOf encodeBody frames ++ rest) =
      (.ok (frames.map Frame.payload), rest) := by
  induction frames with
  | nil => rfl
  | cons frame frames ih =>
      have hlater := ih (fun later hmem => hextra later (List.mem_cons_of_mem _ hmem))
        fun later hmem => hjson later (List.mem_cons_of_mem _ hmem)
      unfold streamOf at hlater ⊢
      rw [List.flatMap_cons, List.append_assoc, List.length_cons, readMessages,
        readMessage_bytes (hextra frame List.mem_cons_self) (hjson frame List.mem_cons_self)]
      simp only [hlater, List.map_cons]

theorem exists_error_of_cut {frames : List Frame} (hextra : ∀ frame ∈ frames, frame.Extra)
    (hjson : ∀ frame ∈ frames, decodeBody (encodeBody frame.payload) = .ok frame.payload)
    (hcut : cut <+: streamOf encodeBody frames) (hne : cut ≠ streamOf encodeBody frames) :
    ∃ count < frames.length, ∃ rest error,
      readMessages decodeBody count cut =
          (.ok ((frames.take count).map Frame.payload), rest) ∧
        (readMessage decodeBody rest).1 = .error error := by
  induction frames generalizing cut with
  | nil =>
      rw [streamOf, List.flatMap_nil, List.prefix_nil] at hcut
      exact absurd hcut hne
  | cons frame frames ih =>
      have hframe := hextra frame List.mem_cons_self
      have hlater := fun later hmem => hextra later (List.mem_cons_of_mem frame hmem)
      have hread := fun later hmem => hjson later (List.mem_cons_of_mem frame hmem)
      unfold streamOf at hcut hne ih
      rw [List.flatMap_cons] at hcut hne
      by_cases hwhole : frame.bytes encodeBody <+: cut
      · obtain ⟨part, rfl⟩ := hwhole
        rw [List.prefix_append_right_inj] at hcut
        have hpart : part ≠ frames.flatMap (Frame.bytes encodeBody) := by
          intro heq
          exact hne (by rw [heq])
        obtain ⟨count, hcount, rest, error, hmessages, herror⟩ := ih hlater hread hcut hpart
        refine ⟨count + 1, by simpa using hcount, rest, error, ?_, herror⟩
        rw [readMessages, readMessage_bytes hframe (hjson frame List.mem_cons_self)]
        simp only [hmessages, List.take_succ_cons, List.map_cons]
      · have hpart := (List.prefix_or_prefix_of_prefix hcut
          (List.prefix_append _ _)).resolve_right hwhole
        have hproper : cut ≠ frame.bytes encodeBody := by
          rintro rfl
          exact hwhole List.prefix_rfl
        obtain ⟨error, herror⟩ := readMessage_of_cut decodeBody hframe hpart hproper
        exact ⟨0, by simp, cut, error, rfl, herror⟩

variable (encodeBody decodeBody) in
/-- What `_write_message` writes is read back in order, with nothing left, and a stream which
is cut off raises behind its whole messages. -/
theorem readMessages_writeMessage {frames : List Frame}
    (hextra : ∀ frame ∈ frames, frame.Extra)
    (hjson : ∀ frame ∈ frames, decodeBody (encodeBody frame.payload) = .ok frame.payload) :
    (∀ payload,
        Frame.bytes encodeBody { payload := payload } = writeMessage encodeBody payload) ∧
      readMessages decodeBody frames.length (streamOf encodeBody frames) =
        (.ok (frames.map Frame.payload), []) ∧
      ∀ cut, cut <+: streamOf encodeBody frames → cut ≠ streamOf encodeBody frames →
        ∃ count < frames.length, ∃ rest error,
          readMessages decodeBody count cut =
              (.ok ((frames.take count).map Frame.payload), rest) ∧
            (readMessage decodeBody rest).1 = .error error := by
  refine ⟨Frame.bytes_written, ?_, ?_⟩
  · have hread := readMessages_streamOf hextra hjson []
    rwa [List.append_nil] at hread
  · intro cut hcut hne
    exact exists_error_of_cut hextra hjson hcut hne

end Stream

/-- Two empty objects, the second with a content type in front of its length. -/
theorem readMessages_writeMessage_emptyObjects :
    readMessages (fun _ => .ok (.obj [])) 2
        (writeMessage (fun _ => asciiBytes "\x7b\x7d") (.obj []) ++
          asciiBytes "Content-Type: application/json\r\nContent-Length: 2\r\n\r\n\x7b\x7d") =
      (.ok [.obj [], .obj []], []) := by
  have hline : IsExtraHeader (asciiBytes "Content-Type: application/json\r\n") := by
    constructor
    · constructor
      · exact ⟨asciiBytes "Content-Type: application/json\r", by decide, by decide⟩
      · decide
    · decide +kernel
    · decide +kernel
  have hextra : ∀ frame ∈ [({ payload := .obj [] } : Frame),
      { before := [asciiBytes "Content-Type: application/json\r\n"], payload := .obj [] }],
      frame.Extra := by
    intro frame hframe
    simp only [List.mem_cons, List.not_mem_nil, or_false] at hframe
    cases hframe with
    | inl hplain => simp [hplain, Frame.Extra]
    | inr htyped => simpa [htyped, Frame.Extra] using hline
  exact (readMessages_writeMessage (fun _ => asciiBytes "\x7b\x7d")
    (fun _ => .ok (.obj [])) hextra (by simp)).2.1

end SuitCode
