import SuitCode.Library.PosixText

/-!
# Words of a shell command

`shlex.split` in its POSIX mode without comments: words end at white space,
quotes keep it, a backslash keeps the next character.  An open quote or a
trailing backslash is an error.
-/

namespace ShellWords

open PosixText

inductive Mode where
  | between
  | word
  | quote (mark : Char)
  | escape (inside : Option Char)
  deriving DecidableEq, Repr

/-- `shlex.whitespace`. -/
def isBlankChar (c : Char) : Bool := c ∈ [' ', '\t', '\r', '\n']

def isQuote (c : Char) : Bool := c ∈ ['\'', '"']

def modeInside : Option Char → Mode
  | none => .word
  | some mark => .quote mark

/-- The words of the pending characters; `word` holds the characters read of the
current word. -/
def splitFrom : Mode → List Char → List Char → Option (List String)
  | .between, _, [] => some []
  | .word, word, [] => some [String.ofList word]
  | .quote _, _, [] => none
  | .escape _, _, [] => none
  | .between, word, c :: pending =>
      if isBlankChar c then splitFrom .between word pending
      else if c = '\\' then splitFrom (.escape none) [] pending
      else if isQuote c then splitFrom (.quote c) [] pending
      else splitFrom .word [c] pending
  | .word, word, c :: pending =>
      if isBlankChar c then
        (splitFrom .between [] pending).map fun words => String.ofList word :: words
      else if isQuote c then splitFrom (.quote c) word pending
      else if c = '\\' then splitFrom (.escape none) word pending
      else splitFrom .word (word ++ [c]) pending
  | .quote mark, word, c :: pending =>
      if c = mark then splitFrom .word word pending
      else if c = '\\' && mark = '"' then splitFrom (.escape (some mark)) word pending
      else splitFrom (.quote mark) (word ++ [c]) pending
  | .escape inside, word, c :: pending =>
      -- within quotes only the quote and the backslash are escaped
      let kept := if inside.all fun mark => c = '\\' || c = mark then [c] else ['\\', c]
      splitFrom (modeInside inside) (word ++ kept) pending

/-- `shlex.split(text, posix=True)`; `none` stands for its `ValueError`. -/
def shellSplit (text : String) : Option (List String) :=
  splitFrom .between [] text.toList

/-- The words of `text.split()`, with the characters of the current one. -/
def wordsFrom : List Char → List Char → List String
  | word, [] => if word = [] then [] else [String.ofList word]
  | word, c :: pending =>
      if isSpace c then
        if word = [] then wordsFrom [] pending
        else String.ofList word :: wordsFrom [] pending
      else
        wordsFrom (word ++ [c]) pending

/-- `text.split()`. -/
def splitWords (text : String) : List String := wordsFrom [] text.toList

/-- The pieces of a command between `&&`, `||` and `;`. -/
def commandPieces : List Char → List Char → List String
  | piece, [] => [String.ofList piece]
  | piece, '&' :: '&' :: pending => String.ofList piece :: commandPieces [] pending
  | piece, '|' :: '|' :: pending => String.ofList piece :: commandPieces [] pending
  | piece, ';' :: pending => String.ofList piece :: commandPieces [] pending
  | piece, c :: pending => commandPieces (piece ++ [c]) pending

/-- `text.lstrip()`. -/
def stripStart (text : String) : String := String.ofList (text.toList.dropWhile isSpace)

/-- `text.rstrip()`. -/
def stripEnd (text : String) : String :=
  String.ofList (text.toList.reverse.dropWhile isSpace).reverse

/-- The white space at a separator belongs to it; `behind` says that one stands
before the pieces. -/
def trimPieces : Bool → List String → List String
  | _, [] => []
  | behind, [piece] => [if behind then stripStart piece else piece]
  | behind, piece :: next :: pieces =>
      stripEnd (if behind then stripStart piece else piece) ::
        trimPieces true (next :: pieces)

/-- `re.split(r"\s*(?:&&|\|\||;)\s*", text)`. -/
def commandSegments (text : String) : List String :=
  trimPieces false (commandPieces [] text.toList)

example : shellSplit "node  'a b'\\ c \"x\\\"\" ''" = some ["node", "a b c", "x\"", ""] := by
  decide

example : commandSegments "tsc -b && vite build ;x" = ["tsc -b", "vite build", "x"] := by
  decide

end ShellWords
