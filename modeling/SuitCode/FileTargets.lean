import SuitCode.Library.FileTree
import SuitCode.McpViews
import SuitCode.MinimumVerifiedService

/-!
# File targets of the tools

A tool which takes repository-relative paths strips them, checks that each
leads to an existing file below the repository root, and explains the error
when the repository then does not know the file.  The tree is the file system
in which the repository root lies; the root is already resolved.
-/

namespace SuitCode

open PosixText KeyedList FileTree ExceptList

/-! ## Explaining errors -/

/-- `path.strip().replace("\\", "/").removeprefix("./")`. -/
def fileTargetText (repositoryRelPath : String) : String :=
  removePrefix "./" (replaceChar '\\' '/' (strip repositoryRelPath))

def rootSegments (repository : Repository) : List String := segments repository.root

/-- `(repository_root / normalized).resolve()`. -/
def resolveCandidate (tree : FileTree) (root : List String) (normalized : String) :
    PyResult (List String) :=
  match tree.resolve (joined root normalized) with
  | some candidate => .ok candidate
  | none => .error (.runtimeError ("Symlink loop from " ++ normalized))

def sameDirectoryFileSummary (tree : FileTree) (root directory : List String) : String :=
  match relativeTo root directory with
  | none => ""
  | some label =>
      let siblingFiles :=
        (sortedBy id ((tree.names directory).filter fun name =>
          tree.isFile (directory ++ [name]))).take 8
      if !tree.isDirectory directory || siblingFiles.isEmpty then
        ""
      else
        " Exact file siblings in `" ++ posixText label ++ "`: " ++
          join ", " (siblingFiles.map fun item => "`" ++ item ++ "`") ++ "."

def explainFileTargetErrorForRoot (tree : FileTree) (root : List String)
    (repositoryRelPath message toolName : String) : PyResult String := do
  let normalized := fileTargetText repositoryRelPath
  let candidate ← resolveCandidate tree root normalized
  if (relativeTo root candidate).isNone then
    pure message
  else if !tree.pathExists candidate then
    pure
      ("repository file not found: `" ++ normalized ++ "`. `" ++ toolName ++
        "` requires an existing repository file target." ++
        sameDirectoryFileSummary tree root candidate.dropLast)
  else if tree.isDirectory candidate then
    pure
      ("repository path `" ++ normalized ++ "` is a directory, not a file. `" ++ toolName ++
        "` requires a repository file target." ++
        sameDirectoryFileSummary tree root candidate)
  else if !containsText message "unknown repository file owner" then
    pure message
  else
    pure
      (message ++ ". `" ++ toolName ++
        "` currently supports only provider-owned files. " ++
        "Files that exist in the repository but are not deterministically owned by a " ++
        "registered provider, including unsupported plain-text or documentation " ++
        "artifacts, are not supported by this tool.")

/-- Reraise a `ValueError` about a file target with its explanation. -/
def explainingFileTarget {α : Type} (tree : FileTree) (root : List String)
    (repositoryRelPath toolName : String) (errorCls : String → PyError)
    (result : PyResult α) : PyResult α :=
  match result with
  | .error (.valueError message) => do
      let explained ←
        explainFileTargetErrorForRoot tree root repositoryRelPath message toolName
      .error (errorCls explained)
  | .error exception => .error exception
  | .ok value => .ok value

/-! ## Validation of paths -/

def validateRepositoryRelPaths (repositoryRelPaths : List String) (fieldName : String) :
    PyResult (List String) :=
  let normalized := repositoryRelPaths.map strip
  if repositoryRelPaths.isEmpty then
    .error (.mcpValidationError (fieldName ++ " must not be empty"))
  else if normalized.any (· = "") then
    .error (.mcpValidationError (fieldName ++ " must not contain empty values"))
  else if ¬ normalized.Nodup then
    .error (.mcpValidationError (fieldName ++ " must not contain duplicates"))
  else
    .ok normalized

def prevalidateExistingRepositoryFileTargetFromRoot (tree : FileTree) (root : List String)
    (toolName : String) (errorCls : String → PyError) (repositoryRelPath : String) :
    PyResult Unit := do
  let normalized := fileTargetText repositoryRelPath
  let candidate ← resolveCandidate tree root normalized
  if (relativeTo root candidate).isNone then
    .error (errorCls
      ("repository file target must stay within repository root: `" ++ normalized ++ "`"))
  else if tree.pathExists candidate && tree.isFile candidate then
    pure ()
  else do
    let message ← explainFileTargetErrorForRoot tree root normalized
      "unknown repository file owner" toolName
    .error (errorCls message)

def prevalidateExistingRepositoryFileTargets (tree : FileTree) (repository : Repository)
    (repositoryRelPaths : List String) (toolName fieldName : String)
    (errorCls : String → PyError) : PyResult (List String) := do
  let normalizedPaths ← validateRepositoryRelPaths repositoryRelPaths fieldName
  let _ ← normalizedPaths.mapM
    (prevalidateExistingRepositoryFileTargetFromRoot tree (rootSegments repository)
      toolName errorCls)
  pure normalizedPaths

def prevalidateExistingRepositoryFileTarget (tree : FileTree) (repository : Repository)
    (repositoryRelPath toolName : String) (errorCls : String → PyError) :
    PyResult String := do
  let normalizedPaths ←
    validateRepositoryRelPaths [repositoryRelPath] "repository_rel_path"
  match normalizedPaths with
  | [] => .error .indexError
  | normalized :: _ => do
      prevalidateExistingRepositoryFileTargetFromRoot tree (rootSegments repository)
        toolName errorCls normalized
      pure normalized

/-! ## Tools on one file -/

def getFileOwnerByPath (tree : FileTree) (repository : Repository)
    (repositoryRelPath : String) : PyResult FileOwnerView := do
  let normalized ← prevalidateExistingRepositoryFileTarget tree repository
    repositoryRelPath "get_file_owner_by_path" .mcpNotFoundError
  let fileOwner ← explainingFileTarget tree (rootSegments repository) normalized
    "get_file_owner_by_path" .mcpNotFoundError (repository.getFileOwner normalized)
  pure (fileOwnerView fileOwner)

def fileChangeSet (repository : Repository) (repositoryRelPath : String) :
    PyResult MinimumVerifiedChangeSet := do
  let target ← ChangeTarget.ofFile repositoryRelPath
  getMinimumVerifiedChangeSet repository target

def getMinimumVerifiedChangeSetByPath (tree : FileTree) (repository : Repository)
    (repositoryRelPath : String) : PyResult MinimumVerifiedChangeSetView := do
  let normalized ← prevalidateExistingRepositoryFileTarget tree repository
    repositoryRelPath "get_minimum_verified_change_set_by_path" .mcpValidationError
  let changeSet ← explainingFileTarget tree (rootSegments repository) normalized
    "get_minimum_verified_change_set_by_path" .mcpValidationError
    (fileChangeSet repository normalized)
  pure (minimumVerifiedChangeSetView changeSet)

/-! ## What acceptance says -/

theorem explainingFileTarget_eq_ok
    {α : Type} {tree : FileTree} {root : List String} {path toolName : String}
    {errorCls : String → PyError} {result : PyResult α} {value : α} :
    explainingFileTarget tree root path toolName errorCls result = .ok value ↔
      result = .ok value := by
  unfold explainingFileTarget
  split
  · rename_i message
    cases explainFileTargetErrorForRoot tree root path message toolName with
    | ok explained => simp [bind, Except.bind]
    | error exception => simp [bind, Except.bind]
  · simp
  · simp

theorem validateRepositoryRelPaths_eq_ok
    {paths normalized : List String} {fieldName : String} :
    validateRepositoryRelPaths paths fieldName = .ok normalized ↔
      normalized = paths.map strip ∧ paths ≠ [] ∧ "" ∉ normalized ∧ normalized.Nodup := by
  unfold validateRepositoryRelPaths
  by_cases hempty : paths = []
  · simp [hempty]
  · have hisEmpty : paths.isEmpty = false := by simpa using hempty
    by_cases hblank : (paths.map strip).any (· = "") = true
    · have hmem : "" ∈ paths.map strip := by
        rcases List.any_eq_true.mp hblank with ⟨path, hpath, heq⟩
        rw [decide_eq_true_eq] at heq
        rwa [heq] at hpath
      simp only [hisEmpty, hblank, Bool.false_eq_true, if_false, if_true, reduceCtorEq,
        false_iff]
      rintro ⟨rfl, -, hnot, -⟩
      exact hnot hmem
    · have hmem : "" ∉ paths.map strip := by
        intro hmem
        exact hblank (List.any_eq_true.mpr ⟨"", hmem, by simp⟩)
      by_cases hnodup : (paths.map strip).Nodup
      · simp only [hisEmpty, hblank, Bool.false_eq_true, if_false, hnodup, not_true_eq_false,
          Except.ok.injEq]
        constructor
        · rintro rfl
          exact ⟨rfl, hempty, hmem, hnodup⟩
        · rintro ⟨rfl, -⟩
          rfl
      · simp only [hisEmpty, hblank, Bool.false_eq_true, if_false, hnodup, not_false_eq_true,
          if_true, reduceCtorEq, false_iff]
        rintro ⟨rfl, -, -, hnot⟩
        exact hnodup hnot

theorem mapM_unit_eq_ok_iff {α : Type} {check : α → PyResult Unit} {inputs : List α} :
    (∃ outputs, inputs.mapM check = .ok outputs) ↔ ∀ input ∈ inputs, check input = .ok () := by
  constructor
  · intro hexists input hinput
    rcases hexists with ⟨outputs, hok⟩
    rcases exists_output_of_mem hok hinput with ⟨output, -, hchecked⟩
    exact hchecked
  · intro hall
    refine ⟨inputs.map fun _ => (), ?_⟩
    have hrecords := mapM_records check id (fun _ => ()) inputs hall
    rwa [List.map_id] at hrecords

/-- The targets of a tool are accepted exactly where each of them is a file of the repository. -/
theorem prevalidateExistingRepositoryFileTargets_eq_ok
    {tree : FileTree} {repository : Repository} {paths normalizedPaths : List String}
    {toolName fieldName : String} {errorCls : String → PyError} :
    prevalidateExistingRepositoryFileTargets tree repository paths toolName fieldName
        errorCls = .ok normalizedPaths ↔
      validateRepositoryRelPaths paths fieldName = .ok normalizedPaths ∧
        ∀ path ∈ normalizedPaths,
          prevalidateExistingRepositoryFileTargetFromRoot tree (rootSegments repository)
            toolName errorCls path = .ok () := by
  unfold prevalidateExistingRepositoryFileTargets
  rw [bind_eq_ok]
  constructor
  · intro hok
    rcases hok with ⟨validated, hvalidated, hok⟩
    rcases bind_eq_ok.mp hok with ⟨checked, hchecked, hok⟩
    have heq := pure_eq_ok.mp hok
    subst heq
    exact ⟨hvalidated, mapM_unit_eq_ok_iff.mp ⟨checked, hchecked⟩⟩
  · intro hok
    rcases mapM_unit_eq_ok_iff.mpr hok.2 with ⟨checked, hchecked⟩
    refine ⟨normalizedPaths, hok.1, ?_⟩
    rw [bind_eq_ok]
    exact ⟨checked, hchecked, rfl⟩

end SuitCode
