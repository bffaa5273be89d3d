import Mathlib.Algebra.Group.Int.Defs
import SuitCode.LspMessages
import SuitCode.Library.Drain
import SuitCode.Library.ExceptList
import SuitCode.Library.PosixText

/-!
# The reader thread

Messages framed by header lines are read from the output of the server until
reading fails.  The failure is the last item the reader puts into its queue.
-/

namespace SuitCode

open Drain ExceptList PosixText PythonRepr

/-! ## Header lines -/

def newline : UInt8 := 10

def asciiBytes (text : String) : List UInt8 :=
  text.toList.map fun c => UInt8.ofNat c.toNat

/-- `readline()`: the bytes up to and with the next newline, and what follows them. -/
def readLine (stream : List UInt8) : List UInt8 × List UInt8 :=
  match stream.dropWhile (· ≠ newline) with
  | [] => (stream, [])
  | byte :: rest => (stream.takeWhile (· ≠ newline) ++ [byte], rest)

/-- `line.decode("ascii")`. -/
def decodeAscii (line : List UInt8) : LspResult String :=
  match line.findIdx? (128 ≤ ·), line.find? (128 ≤ ·) with
  | some position, some byte =>
      .error ⟨.unicodeDecodeError, "'ascii' codec can't decode byte 0x" ++
        String.ofList (Nat.toDigits 16 byte.toNat) ++ " in position " ++ toString position ++
        ": ordinal not in range(128)"⟩
  | _, _ => .ok (String.ofList (line.map fun byte => Char.ofNat byte.toNat))

def parseDigits (digits : List Char) : Option ℕ :=
  let groups := digits.splitOn '_'
  if groups.all (fun group => !group.isEmpty && group.all Char.isDigit) then
    some (Nat.ofDigitChars 10 groups.flatten 0)
  else none

/-- `int(text)` of an ASCII text. -/
def parseInt (text : String) : LspResult ℤ :=
  let parsed : Option ℤ :=
    match (strip text).toList with
    | '-' :: digits => (parseDigits digits).map fun number => -(number : ℤ)
    | '+' :: digits => (parseDigits digits).map fun number => (number : ℤ)
    | digits => (parseDigits digits).map fun number => (number : ℤ)
  match parsed with
  | some number => .ok number
  | none =>
      .error ⟨.valueError, "invalid literal for int() with base 10: " ++ pyRepr text⟩

/-- `text.lower()` of an ASCII text. -/
def lowerAscii (text : String) : String :=
  String.ofList (text.toList.map Char.toLower)

/-- `text.split(":", 1)[1]` for a text with a colon. -/
def afterColon (text : String) : String :=
  String.ofList ((text.toList.dropWhile (· ≠ ':')).drop 1)

def readHeader (contentLength : Option ℤ) (line : List UInt8) : LspResult (Option ℤ) := do
  let header := strip (← decodeAscii line)
  if startsWith (lowerAscii header) "content-length:" then
    return some (← parseInt (strip (afterColon header)))
  else
    return contentLength

theorem length_readLine (stream : List UInt8) :
    (readLine stream).1.length + (readLine stream).2.length = stream.length := by
  have hsplit := congrArg List.length (List.takeWhile_append_dropWhile (p := (· ≠ newline))
    (l := stream))
  unfold readLine
  cases hdrop : stream.dropWhile (· ≠ newline) with
  | nil => simp
  | cons byte rest =>
      rw [hdrop] at hsplit
      simp only [List.length_append, List.length_cons, List.length_nil] at hsplit ⊢
      omega

theorem readLine_parts (stream : List UInt8) :
    (readLine stream).1 ++ (readLine stream).2 = stream := by
  have hsplit := List.takeWhile_append_dropWhile (p := (· ≠ newline)) (l := stream)
  unfold readLine
  cases hdrop : stream.dropWhile (· ≠ newline) with
  | nil => exact List.append_nil stream
  | cons byte rest =>
      rw [hdrop] at hsplit
      rw [List.append_assoc, List.singleton_append]
      exact hsplit

theorem readLine_ne_nil {stream : List UInt8} (hsome : stream ≠ []) :
    (readLine stream).1 ≠ [] := by
  unfold readLine
  cases stream.dropWhile (· ≠ newline) with
  | nil => exact hsome
  | cons byte rest => simp

/-! ## Messages -/

def readHeaders (contentLength : Option ℤ) (stream : List UInt8) :
    LspResult (Option ℤ) × List UInt8 :=
  if _hline : (readLine stream).1 = [] then
    (raiseProtocolError "unexpected EOF while reading language server response",
      (readLine stream).2)
  else if (readLine stream).1 = asciiBytes "\r\n" ∨ (readLine stream).1 = asciiBytes "\n" then
    (.ok contentLength, (readLine stream).2)
  else
    match readHeader contentLength (readLine stream).1 with
    | .error error => (.error error, (readLine stream).2)
    | .ok contentLength => readHeaders contentLength (readLine stream).2
termination_by stream.length
decreasing_by
  have hlength := length_readLine stream
  have hpos := List.length_pos_iff.mpr _hline
  omega

/-- `read(content_length)`, which reads everything when the length is -1. -/
def readContent (contentLength : ℤ) (stream : List UInt8) :
    LspResult (List UInt8) × List UInt8 :=
  if contentLength < -1 then
    (.error ⟨.valueError, "read length must be non-negative or -1"⟩, stream)
  else
    let size := if contentLength = -1 then stream.length else contentLength.toNat
    if ((stream.take size).length : ℤ) = contentLength then
      (.ok (stream.take size), stream.drop size)
    else
      (raiseProtocolError "language server response body was truncated", stream.drop size)

section Reader

/- `json.loads(body.decode("utf-8"))`. -/
variable (decodeBody : List UInt8 → LspResult LspValue)

def readMessage (stream : List UInt8) : LspResult LspValue × List UInt8 :=
  match readHeaders none stream with
  | (.error error, rest) => (.error error, rest)
  | (.ok none, rest) =>
      (raiseProtocolError "language server response is missing Content-Length header", rest)
  | (.ok (some contentLength), rest) =>
      match readContent contentLength rest with
      | (.error error, rest) => (.error error, rest)
      | (.ok body, rest) => (decodeBody body, rest)

theorem length_readHeaders (contentLength : Option ℤ) (stream : List UInt8) :
    (readHeaders contentLength stream).2.length ≤ stream.length ∧
      ∀ found, (readHeaders contentLength stream).1 = .ok found →
        (readHeaders contentLength stream).2.length < stream.length := by
  induction contentLength, stream using readHeaders.induct with
  | case1 contentLength stream hline =>
      rw [readHeaders, dif_pos hline]
      have hlength := length_readLine stream
      constructor
      · dsimp only
        omega
      · intro found hfound
        cases hfound
  | case2 contentLength stream hline hblank =>
      rw [readHeaders, dif_neg hline, if_pos hblank]
      have hlength := length_readLine stream
      have hpos := List.length_pos_iff.mpr hline
      dsimp only
      constructor
      · omega
      · intro _ _
        omega
  | case3 contentLength stream hline hblank error hheader =>
      rw [readHeaders, dif_neg hline, if_neg hblank, hheader]
      have hlength := length_readLine stream
      constructor
      · dsimp only
        omega
      · intro found hfound
        cases hfound
  | case4 contentLength stream hline hblank found hheader ih =>
      rw [readHeaders, dif_neg hline, if_neg hblank, hheader]
      have hlength := length_readLine stream
      have hpos := List.length_pos_iff.mpr hline
      dsimp only
      constructor
      · omega
      · intro _ _
        omega

theorem length_readContent (contentLength : ℤ) (stream : List UInt8) :
    (readContent contentLength stream).2.length ≤ stream.length := by
  unfold readContent
  by_cases hnegative : contentLength < -1
  · rw [if_pos hnegative]
  · rw [if_neg hnegative]
    generalize (if contentLength = -1 then stream.length else contentLength.toNat) = size
    have hdrop : (stream.drop size).length ≤ stream.length := by simp
    by_cases hsize : ((stream.take size).length : ℤ) = contentLength
    · rw [if_pos hsize]
      exact hdrop
    · rw [if_neg hsize]
      exact hdrop

/-- A message which is read is taken off the stream. -/
theorem length_readMessage {stream : List UInt8} {payload : LspValue}
    (hread : (readMessage decodeBody stream).1 = .ok payload) :
    (readMessage decodeBody stream).2.length < stream.length := by
  have hheaders := length_readHeaders none stream
  unfold readMessage at hread ⊢
  split at hread
  · cases hread
  · cases hread
  · rename_i contentLength rest hfound
    rw [hfound] at hheaders
    have hlt := hheaders.2 _ rfl
    have hbody := length_readContent contentLength rest
    dsimp only at hlt
    split at hread
    · cases hread
    · rename_i body rest' hbodyRead
      rw [hbodyRead] at hbody
      dsimp only at hbody ⊢
      omega

end Reader

/-! ## The loop -/

/-- What a server writes, and whether it closes its end of the pipe behind that. -/
structure ServerOutput where
  bytes : List UInt8
  closed : Bool

/-- Reading a message comes to the end of the stream: a header line or the body is not whole, or
the length is -1, which stands for everything up to the end. -/
def readsToEnd (contentLength : Option ℤ) (stream : List UInt8) : Bool :=
  if _hline : newline ∉ stream then true
  else if (readLine stream).1 = asciiBytes "\r\n" ∨ (readLine stream).1 = asciiBytes "\n" then
    match contentLength with
    | none => false
    | some length =>
        -- a length which is no size at all is refused at once
        length = -1 || ((readLine stream).2.length < length && length < 2 ^ 63)
  else
    match readHeader contentLength (readLine stream).1 with
    | .error _ => false
    | .ok contentLength => readsToEnd contentLength (readLine stream).2
termination_by stream.length
decreasing_by
  have hlength := length_readLine stream
  have hsome : stream ≠ [] := by
    rintro rfl
    exact _hline List.not_mem_nil
  have hpos := List.length_pos_iff.mpr (readLine_ne_nil hsome)
  omega

section Loop

variable (decodeBody : List UInt8 → LspResult LspValue)

/-- What a call of `_read_message` raises, and nothing where it waits for ever: at the end of a
pipe which the server keeps open. -/
def messageReader (closed : Bool) : Reader (List UInt8) (Option LspError) LspValue where
  read stream :=
    ((readMessage decodeBody stream).1.mapError fun error =>
      if closed || !readsToEnd none stream then some error else none,
      (readMessage decodeBody stream).2)
  size := List.length
  size_read := by
    intro stream payload hread
    cases hmessage : (readMessage decodeBody stream).1 with
    | error error =>
        rw [hmessage] at hread
        cases hread
    | ok found => exact length_readMessage decodeBody hmessage

/-- Everything `_reader_loop` puts into the queue before it stops or waits for ever. -/
def readerItems (output : ServerOutput) : List QueueItem :=
  let drained := (messageReader decodeBody output.closed).drain output.bytes
  drained.values.map .payload ++ drained.error.toList.map .failed

def readerStops (output : ServerOutput) : Bool :=
  ((messageReader decodeBody output.closed).drain output.bytes).error.isSome

def unreadOutput (output : ServerOutput) : ServerOutput :=
  { output with bytes := ((messageReader decodeBody output.closed).drain output.bytes).rest }

end Loop

end SuitCode
