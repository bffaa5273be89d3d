import Mathlib.Data.String.Basic
import Mathlib.Data.List.Infix

/-!
# Text and POSIX paths as Python computes them

The string operations a Python program applies to paths: stripping white
space, replacing a character, removing a prefix, joining, and the lexical
normal form of `PurePosixPath`, which drops empty and `.` segments but keeps
`..`.  Texts are sequences of Unicode code points and are compared as such.
-/

namespace PosixText

/-- The code points for which `str.isspace` holds. -/
def isSpace (c : Char) : Bool :=
  (0x09 ≤ c.toNat && c.toNat ≤ 0x0d) || (0x1c ≤ c.toNat && c.toNat ≤ 0x20) ||
    c.toNat == 0x85 || c.toNat == 0xa0 || c.toNat == 0x1680 ||
    (0x2000 ≤ c.toNat && c.toNat ≤ 0x200a) || c.toNat == 0x2028 ||
    c.toNat == 0x2029 || c.toNat == 0x202f || c.toNat == 0x205f ||
    c.toNat == 0x3000

/-- `str.strip()`. -/
def strip (text : String) : String :=
  String.ofList
    ((text.toList.dropWhile isSpace).reverse.dropWhile isSpace).reverse

/-- `not text.strip()`: nothing is left. -/
def isBlank (text : String) : Bool := text.toList.all isSpace

/-- `text.replace(old, new)` for single characters. -/
def replaceChar (old new : Char) (text : String) : String :=
  String.ofList (text.toList.map fun c => if c = old then new else c)

/-- `text.startswith(start)`. -/
def startsWith (text start : String) : Bool :=
  start.toList.isPrefixOf text.toList

/-- `text.endswith(ending)`. -/
def endsWith (text ending : String) : Bool :=
  ending.toList.isSuffixOf text.toList

/-- `part in text`. -/
def containsText (text part : String) : Bool :=
  text.toList.tails.any part.toList.isPrefixOf

/-- `text.removeprefix(start)`. -/
def removePrefix (start text : String) : String :=
  if startsWith text start then
    String.ofList (text.toList.drop start.toList.length)
  else
    text

/-- `text.removesuffix(ending)`. -/
def removeSuffix (ending text : String) : String :=
  if endsWith text ending then
    String.ofList (text.toList.take (text.toList.length - ending.toList.length))
  else
    text

/-- `text.strip("/")`. -/
def stripSlashes (text : String) : String :=
  String.ofList
    ((text.toList.dropWhile (· = '/')).reverse.dropWhile (· = '/')).reverse

/-- `separator.join(parts)`. -/
def join (separator : String) : List String → String
  | [] => ""
  | [part] => part
  | part :: next :: rest => part ++ separator ++ join separator (next :: rest)

def pieces (text : String) : List String :=
  (text.toList.splitOn '/').map String.ofList

/-- The segments `PurePosixPath` keeps: the non-empty pieces other than `.`. -/
def segments (text : String) : List String :=
  (pieces text).filter fun piece => piece ≠ "" && piece ≠ "."

def rootOf (text : String) : String :=
  if startsWith text "//" && !startsWith text "///" then "//"
  else if startsWith text "/" then "/"
  else ""

/-- `str(PurePosixPath(text))`. -/
def purePosixPath (text : String) : String :=
  if rootOf text = "" && segments text = [] then "."
  else rootOf text ++ join "/" (segments text)

/-- `text.rsplit("/", 1)[0]` for a text which contains a slash. -/
def parentText (text : String) : String :=
  join "/" (pieces text).dropLast

/-- A path equals a root or lies below it: `path == root or
path.startswith(f"{root}/")`. -/
def isAtOrBelow (path root : String) : Bool :=
  path = root || startsWith path (root ++ "/")

theorem startsWith_trans {text start middle : String}
    (hstart : startsWith middle start = true) (hmiddle : startsWith text middle = true) :
    startsWith text start = true := by
  have hs : start.toList <+: middle.toList := by simpa [startsWith] using hstart
  have hm : middle.toList <+: text.toList := by simpa [startsWith] using hmiddle
  simpa [startsWith] using hs.trans hm

theorem ne_of_startsWith {left right start start' : String}
    (hleft : startsWith left start = true) (hright : startsWith right start' = true)
    (hlength : start.toList.length = start'.toList.length) (hne : start ≠ start') :
    left ≠ right := by
  intro heq
  subst heq
  apply hne
  have hl : start.toList <+: left.toList := by
    simpa [startsWith] using hleft
  have hr : start'.toList <+: left.toList := by
    simpa [startsWith] using hright
  have hlists : start.toList = start'.toList :=
    (List.prefix_of_prefix_length_le hl hr hlength.le).eq_of_length hlength
  simpa using congrArg String.ofList hlists

example : purePosixPath "a//./b/../c" = "a/b/../c" := by decide

example : strip "  ./src/index.ts\t" = "./src/index.ts" := by decide

end PosixText
