import SuitCode.Library.PosixText

/-!
# File trees

A finite tree of files, directories and symbolic links.  Resolving a path
walks its segments from the root: `..` drops the segment before it, and a link
is replaced by its target, at most `linkLimit` times.  Segments which do not
exist are kept, as `Path.resolve` does when it is not strict.
-/

open PosixText

inductive FileTree.Entry where
  | file
  | directory
  | symlink (target : String)
  deriving DecidableEq, Repr

structure FileTree where
  entries : List (List String × FileTree.Entry)
  linkLimit : ℕ
  deriving DecidableEq, Repr

namespace FileTree

def lookup (tree : FileTree) (path : List String) : Option Entry :=
  if path = [] then
    some .directory
  else
    (tree.entries.find? fun entry => entry.1 = path).map Prod.snd

/-- Walk the pending segments; `follow` continues behind a link. -/
def walk (tree : FileTree)
    (follow : List String → List String → Option (List String)) :
    List String → List String → Option (List String)
  | path, [] => some path
  | path, segment :: pending =>
      if segment = ".." then
        walk tree follow path.dropLast pending
      else
        match tree.lookup (path ++ [segment]) with
        | some (.symlink target) =>
            if rootOf target = "" then
              follow path (segments target ++ pending)
            else
              follow [] (segments target ++ pending)
        | _ => walk tree follow (path ++ [segment]) pending

def resolveFrom (tree : FileTree) :
    ℕ → List String → List String → Option (List String)
  | 0 => walk tree fun _ _ => none
  | links + 1 => walk tree (resolveFrom tree links)

/-- The path without links and `..`, or `none` for a loop of links. -/
def resolve (tree : FileTree) (path : List String) : Option (List String) :=
  resolveFrom tree tree.linkLimit [] path

def stat (tree : FileTree) (path : List String) : Option Entry := do
  let resolved ← tree.resolve path
  tree.lookup resolved

def pathExists (tree : FileTree) (path : List String) : Bool :=
  (tree.stat path).isSome

def isFile (tree : FileTree) (path : List String) : Bool :=
  tree.stat path = some .file

def isDirectory (tree : FileTree) (path : List String) : Bool :=
  tree.stat path = some .directory

def names (tree : FileTree) (directory : List String) : List String :=
  tree.entries.filterMap fun entry =>
    if entry.1.dropLast = directory then entry.1.getLast? else none

def filesBelow (tree : FileTree) (directory : List String) : List (List String) :=
  match tree.resolve directory with
  | none => []
  | some real =>
      tree.entries.filterMap fun entry =>
        if real.isPrefixOf entry.1 && entry.1 ≠ real && tree.isFile entry.1 then
          some (directory ++ entry.1.drop real.length)
        else
          none

def namedBelow (tree : FileTree) (directory : List String) (name : String) :
    List (List String) :=
  match tree.resolve directory with
  | none => []
  | some real =>
      tree.entries.filterMap fun entry =>
        if real.isPrefixOf entry.1 && entry.1 ≠ real && entry.1.getLast? = some name &&
            tree.pathExists entry.1 then
          some (directory ++ entry.1.drop real.length)
        else
          none

def endingBelow (tree : FileTree) (directory : List String) (ending : String) :
    List (List String) :=
  match tree.resolve directory with
  | none => []
  | some real =>
      tree.entries.filterMap fun entry =>
        if real.isPrefixOf entry.1 && entry.1 ≠ real && endsWith (entry.1.getLastD "") ending then
          some (directory ++ entry.1.drop real.length)
        else
          none

/-- The segments of `path` below `root`. -/
def relativeTo (root path : List String) : Option (List String) :=
  if root.isPrefixOf path then some (path.drop root.length) else none

/-- The segments of `text` read from `directory`; an absolute text replaces it. -/
def joined (directory : List String) (text : String) : List String :=
  if rootOf text = "" then directory ++ segments text else segments text

/-- `path.as_posix()` for a relative path. -/
def posixText (path : List String) : String :=
  if path = [] then "." else join "/" path

end FileTree
