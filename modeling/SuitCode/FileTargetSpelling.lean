import SuitCode.BatchCoverage
import SuitCode.OwnershipFacts

/-!
# Spellings of a file target

Acceptance resolves a path, so `./a.py` and `b/../a.py` lead to the file `a.py`.
The lookup behind it only strips the path and compares texts, so a tool answers
for a file exactly where the stripped text is the canonical path.
-/

namespace SuitCode

open PosixText KeyedList FileTree ExceptList Repository

def canonicalPath (tree : FileTree) (repository : Repository)
    (repositoryRelPath : String) : Option String := do
  let candidate ←
    tree.resolve (joined (rootSegments repository) (fileTargetText (strip repositoryRelPath)))
  let relative ← relativeTo (rootSegments repository) candidate
  pure (posixText relative)

/-- An accepted path which leads to an owned file. -/
structure Denotes (tree : FileTree) (repository : Repository)
    (repositoryRelPath canonical : String) : Prop where
  accepted :
    ∃ toolName errorCls normalized,
      prevalidateExistingRepositoryFileTarget tree repository repositoryRelPath toolName
        errorCls = .ok normalized
  canonical_eq : canonicalPath tree repository repositoryRelPath = some canonical
  owned : ∃ fileOwner, repository.getFileOwner canonical = .ok fileOwner

/-- The tools give the spelled path the answers for the canonical path. -/
structure ToolsAgree (tree : FileTree) (repository : Repository)
    (repositoryRelPath canonical : String) : Prop where
  fileOwner :
    ∃ fileOwner, repository.getFileOwner canonical = .ok fileOwner ∧
      getFileOwnerByPath tree repository repositoryRelPath = .ok (fileOwnerView fileOwner)
  changeSet :
    ∀ changeSet, fileChangeSet repository canonical = .ok changeSet →
      getMinimumVerifiedChangeSetByPath tree repository repositoryRelPath =
        .ok (minimumVerifiedChangeSetView changeSet)

variable {repositoryRelPath canonical : String} {tree : FileTree} {repository : Repository}

theorem prevalidateFromRoot_eq_ok {root : List String} {toolName : String}
    {errorCls : String → PyError} :
    prevalidateExistingRepositoryFileTargetFromRoot tree root toolName errorCls
        repositoryRelPath = .ok () ↔
      ∃ candidate, tree.resolve (joined root (fileTargetText repositoryRelPath)) =
          some candidate ∧
        (relativeTo root candidate).isSome = true ∧ tree.pathExists candidate = true ∧
          tree.isFile candidate = true := by
  cases hresolve : tree.resolve (joined root (fileTargetText repositoryRelPath)) with
  | none =>
      simp [prevalidateExistingRepositoryFileTargetFromRoot, resolveCandidate, hresolve,
        error_bind]
  | some candidate =>
      simp only [prevalidateExistingRepositoryFileTargetFromRoot, resolveCandidate, hresolve,
        ok_bind, Option.some.injEq, exists_eq_left']
      cases hbelow : relativeTo root candidate with
      | none => simp
      | some relative =>
          by_cases hfile : (tree.pathExists candidate && tree.isFile candidate) = true
          · simp only [Bool.and_eq_true] at hfile
            simp [hfile.1, hfile.2]
          · simp only [Option.isNone_some, Bool.false_eq_true, if_false, hfile, bind_eq_ok,
              reduceCtorEq, and_false, exists_false, false_iff]
            simpa using hfile

theorem prevalidateExistingRepositoryFileTarget_eq_ok {toolName : String}
    {errorCls : String → PyError} {normalized : String} :
    prevalidateExistingRepositoryFileTarget tree repository repositoryRelPath toolName
        errorCls = .ok normalized ↔
      normalized = strip repositoryRelPath ∧ strip repositoryRelPath ≠ "" ∧
        prevalidateExistingRepositoryFileTargetFromRoot tree (rootSegments repository)
          toolName errorCls (strip repositoryRelPath) = .ok () := by
  unfold prevalidateExistingRepositoryFileTarget
  simp only [bind_eq_ok, validateRepositoryRelPaths_eq_ok]
  constructor
  · rintro ⟨paths, ⟨rfl, -, hnonempty, -⟩, hok⟩
    simp only [List.map_cons, List.map_nil, bind_eq_ok, pure_eq_ok] at hok
    rcases hok with ⟨checked, hchecked, heq⟩
    refine ⟨heq.symm, ?_, hchecked⟩
    intro hempty
    simp [hempty] at hnonempty
  · rintro ⟨rfl, hnonempty, hchecked⟩
    refine ⟨[strip repositoryRelPath], ⟨rfl, by simp, ?_, by simp⟩, ?_⟩
    · simpa using Ne.symm hnonempty
    · simp only [hchecked, ok_bind]
      rfl

theorem Denotes.accepted_by (hdenotes : Denotes tree repository repositoryRelPath canonical)
    (toolName : String) (errorCls : String → PyError) :
    prevalidateExistingRepositoryFileTarget tree repository repositoryRelPath toolName
      errorCls = .ok (strip repositoryRelPath) := by
  rcases hdenotes.accepted with ⟨otherTool, otherCls, normalized, haccepted⟩
  have hfacts := prevalidateExistingRepositoryFileTarget_eq_ok.mp haccepted
  have hchecked := prevalidateFromRoot_eq_ok.mp hfacts.2.2
  exact prevalidateExistingRepositoryFileTarget_eq_ok.mpr
    ⟨rfl, hfacts.2.1, prevalidateFromRoot_eq_ok.mpr hchecked⟩

theorem Denotes.getFileOwnerByPath_eq_ok {view : FileOwnerView}
    (hdenotes : Denotes tree repository repositoryRelPath canonical) :
    getFileOwnerByPath tree repository repositoryRelPath = .ok view ↔
      ∃ fileOwner, repository.getFileOwner (strip repositoryRelPath) = .ok fileOwner ∧
        fileOwnerView fileOwner = view := by
  simp only [getFileOwnerByPath, hdenotes.accepted_by, ok_bind, bind_eq_ok, pure_eq_ok,
    explainingFileTarget_eq_ok]

theorem Denotes.getMinimumVerifiedChangeSetByPath_eq_ok {view : MinimumVerifiedChangeSetView}
    (hdenotes : Denotes tree repository repositoryRelPath canonical) :
    getMinimumVerifiedChangeSetByPath tree repository repositoryRelPath = .ok view ↔
      ∃ changeSet, fileChangeSet repository (strip repositoryRelPath) = .ok changeSet ∧
        minimumVerifiedChangeSetView changeSet = view := by
  simp only [getMinimumVerifiedChangeSetByPath, hdenotes.accepted_by, ok_bind, bind_eq_ok,
    pure_eq_ok, explainingFileTarget_eq_ok]

theorem fileOwnerView_path (fileOwner : FileOwnerInfo) :
    (fileOwnerView fileOwner).file.path = fileOwner.fileInfo.repositoryRelPath := rfl

theorem Denotes.toolsAgree_iff (hdenotes : Denotes tree repository repositoryRelPath canonical) :
    ToolsAgree tree repository repositoryRelPath canonical ↔
      strip repositoryRelPath = canonical := by
  constructor
  · intro hagree
    rcases hagree.fileOwner with ⟨fileOwner, howner, htool⟩
    rcases hdenotes.getFileOwnerByPath_eq_ok.mp htool with ⟨found, hfound, hview⟩
    rcases getFileOwner_facts howner with ⟨index, hfacts⟩
    rcases getFileOwner_facts hfound with ⟨otherIndex, hfoundFacts⟩
    calc
      strip repositoryRelPath = (fileOwnerView found).file.path := by
        rw [fileOwnerView_path, hfoundFacts.path_eq]
      _ = (fileOwnerView fileOwner).file.path := by rw [hview]
      _ = canonical := by rw [fileOwnerView_path, hfacts.path_eq]
  · intro heq
    rcases hdenotes.owned with ⟨fileOwner, howner⟩
    constructor
    case fileOwner =>
      refine ⟨fileOwner, howner, hdenotes.getFileOwnerByPath_eq_ok.mpr ⟨fileOwner, ?_, rfl⟩⟩
      rw [heq, howner]
    case changeSet =>
      intro changeSet hchangeSet
      refine hdenotes.getMinimumVerifiedChangeSetByPath_eq_ok.mpr ⟨changeSet, ?_, rfl⟩
      rw [heq, hchangeSet]

/-- The tools answer for every file of an accepted batch, and the batch names
distinct files, exactly where every path is spelled canonically. -/
theorem fileTools_spellingIndependent_iff
    {tree : FileTree} {repository : Repository}
    {repositoryRelPaths canonicals normalizedPaths : List String}
    {toolName fieldName : String} {errorCls : String → PyError}
    (haccepted :
      prevalidateExistingRepositoryFileTargets tree repository repositoryRelPaths toolName
        fieldName errorCls = .ok normalizedPaths)
    (hdenotes : List.Forall₂ (Denotes tree repository) repositoryRelPaths canonicals) :
    List.Forall₂ (ToolsAgree tree repository) repositoryRelPaths canonicals ∧
        canonicals.Nodup ↔
      repositoryRelPaths.map strip = canonicals := by
  have hspelled :
      List.Forall₂ (ToolsAgree tree repository) repositoryRelPaths canonicals ↔
        repositoryRelPaths.map strip = canonicals := by
    rw [← List.forall₂_eq_eq_eq, List.forall₂_map_left_iff]
    clear haccepted
    induction hdenotes with
    | nil => simp
    | cons hdenotes hrest ih => simp [hdenotes.toolsAgree_iff, ih]
  rw [hspelled]
  constructor
  · intro hboth
    exact hboth.1
  · intro heq
    have hvalidated :=
      (prevalidateExistingRepositoryFileTargets_eq_ok.mp haccepted).1
    have hfacts := validateRepositoryRelPaths_eq_ok.mp hvalidated
    have hnodup := hfacts.2.2.2
    rw [hfacts.1, heq] at hnodup
    exact ⟨heq, hnodup⟩

namespace Sample

def oneFile : Repository :=
  { root := "/work"
    providers :=
      [{ providerId := "py"
         components := [component "c:py:app" [] []]
         files := [file "c:py:app" "a.py"] }]
    providerRoles := fun _ => [.architecture] }

end Sample

theorem oneFile_accepted :
    prevalidateExistingRepositoryFileTargets (Sample.workTree ["a.py"]) Sample.oneFile
        ["a.py", "./a.py"] "what_should_i_run" "repository_rel_paths" .mcpValidationError =
      .ok ["a.py", "./a.py"] := by
  decide

theorem oneFile_owned :
    (Sample.oneFile.getFileOwner "a.py").Yields fun _ => True := by
  decide

theorem oneFile_denotes :
    List.Forall₂ (Denotes (Sample.workTree ["a.py"]) Sample.oneFile) ["a.py", "./a.py"]
      ["a.py", "a.py"] := by
  have howned : ∃ fileOwner, Sample.oneFile.getFileOwner "a.py" = .ok fileOwner := by
    rcases oneFile_owned.exists_ok with ⟨fileOwner, hok, -⟩
    exact ⟨fileOwner, hok⟩
  have hplain : Denotes (Sample.workTree ["a.py"]) Sample.oneFile "a.py" "a.py" :=
    ⟨⟨"get_file_owner_by_path", .mcpNotFoundError, "a.py", by decide⟩,
      by decide, howned⟩
  have hdotted : Denotes (Sample.workTree ["a.py"]) Sample.oneFile "./a.py" "a.py" :=
    ⟨⟨"get_file_owner_by_path", .mcpNotFoundError, "./a.py", by decide⟩,
      by decide, howned⟩
  exact .cons hplain (.cons hdotted .nil)

/-- `./a.py` is accepted and not found, and the batch names one file twice. -/
theorem fileTools_not_spellingIndependent :
    ¬ ∀ (tree : FileTree) (repository : Repository)
        (repositoryRelPaths canonicals normalizedPaths : List String)
        (toolName fieldName : String) (errorCls : String → PyError),
        prevalidateExistingRepositoryFileTargets tree repository repositoryRelPaths toolName
            fieldName errorCls = .ok normalizedPaths →
          List.Forall₂ (Denotes tree repository) repositoryRelPaths canonicals →
            List.Forall₂ (ToolsAgree tree repository) repositoryRelPaths canonicals ∧
              canonicals.Nodup := by
  intro hall
  have hboth := hall _ _ _ _ _ _ _ _ oneFile_accepted oneFile_denotes
  have hnodup := hboth.2
  simp at hnodup

theorem fileTools_spellingIndependent_iff_oneFile :
    List.Forall₂ (ToolsAgree (Sample.workTree ["a.py"]) Sample.oneFile)
          ["a.py", "./a.py"] ["a.py", "a.py"] ∧
        ["a.py", "a.py"].Nodup ↔
      ["a.py", "./a.py"].map strip = ["a.py", "a.py"] :=
  fileTools_spellingIndependent_iff oneFile_accepted oneFile_denotes

end SuitCode
