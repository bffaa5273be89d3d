import SuitCode.Library.FileTree
import SuitCode.Library.KeyedList
import SuitCode.RepositoryModels
import Mathlib.Data.List.Lex

/-!
# The npm workspace analyzer

A package of a workspace becomes a component.  Its source roots are directory
candidates below the package; its artifact paths are further candidates and
the existing paths which the manifest names as entries.  The provider rebases
both to the repository root, and the file inventory gives the files below them
to the component.
-/

namespace SuitCode

open PosixText KeyedList

/-! ## Manifests -/

/-- An `exports` or `bin` value of a manifest; of an object only the values are
read. -/
inductive PackageEntry where
  | text (value : String)
  | object (values : List PackageEntry)
  | array (values : List PackageEntry)
  | other
  deriving Repr

structure TextMap where
  entries : List (String × String) := []
  names_nodup : (entries.map Prod.fst).Nodup := by first | exact List.nodup_nil | decide
  deriving DecidableEq, Repr

namespace TextMap

def names (table : TextMap) : List String := table.entries.map Prod.fst

def get (table : TextMap) (name : String) : Option String :=
  (leader? Prod.fst table.entries name).map Prod.snd

end TextMap

/-- `tuple(sorted(found))` for a set of texts. -/
def sortedSet (found : List String) : List String :=
  sortedBy id (dedupeBy id found)

@[simp] theorem mem_sortedSet {found : List String} {text : String} :
    text ∈ sortedSet found ↔ text ∈ found := by
  rw [sortedSet, mem_sortedBy, mem_dedupeBy_id]

structure PackageJsonDependencySet where
  dependencies : TextMap := {}
  devDependencies : TextMap := {}
  peerDependencies : TextMap := {}
  optionalDependencies : TextMap := {}
  deriving DecidableEq, Repr

namespace PackageJsonDependencySet

def groups (dependencies : PackageJsonDependencySet) : List TextMap :=
  [dependencies.dependencies, dependencies.devDependencies, dependencies.peerDependencies,
    dependencies.optionalDependencies]

def allDependencyNames (dependencies : PackageJsonDependencySet) : List String :=
  sortedSet (dependencies.groups.flatMap TextMap.names)

def versionFor (dependencies : PackageJsonDependencySet) (packageName : String) :
    Option String :=
  dependencies.groups.findSome? fun group => group.get packageName

end PackageJsonDependencySet

structure PackageJsonManifest where
  path : List String
  name : Option String
  scripts : TextMap := {}
  dependencies : PackageJsonDependencySet := {}
  main : Option String := none
  module : Option String := none
  types : Option String := none
  exports : PackageEntry := .other
  bin : PackageEntry := .other
  deriving Repr

structure PackageJsonWorkspacePackage where
  packageDir : List String
  manifest : PackageJsonManifest
  deriving Repr

structure PackageJsonWorkspace where
  repositoryRoot : List String
  rootManifest : PackageJsonManifest
  packages : List PackageJsonWorkspacePackage
  deriving Repr

structure NpmPackageAnalysis where
  packageName : String
  packagePath : String
  manifestPath : String
  componentKind : ComponentKind
  language : ProgrammingLanguage
  sourceRoots : List String
  packageOwnedPaths : List String
  artifactPaths : List String
  localDependencies : List String
  externalDependencies : List String
  dependencies : PackageJsonDependencySet
  deriving DecidableEq, Repr

/-- `path.relative_to(root).as_posix()`. -/
def relativePosix (root path : List String) : PyResult String :=
  match FileTree.relativeTo root path with
  | some relative => .ok (FileTree.posixText relative)
  | none =>
      raiseValueError
        ("'/" ++ join "/" path ++ "' is not in the subpath of '/" ++ join "/" root ++ "'")

namespace PackageJsonWorkspace

def packageName (package : PackageJsonWorkspacePackage) : PyResult String :=
  match package.manifest.name with
  | some name => .ok name
  | none =>
      raiseValueError
        ("workspace package is missing a name: /" ++ join "/" package.manifest.path)

def packageNames (workspace : PackageJsonWorkspace) : PyResult (List String) :=
  workspace.packages.mapM packageName

def repositoryRelPath (workspace : PackageJsonWorkspace)
    (package : PackageJsonWorkspacePackage) : PyResult String :=
  relativePosix workspace.repositoryRoot package.packageDir

def packageJsonRelPath (workspace : PackageJsonWorkspace)
    (package : PackageJsonWorkspacePackage) : PyResult String :=
  relativePosix workspace.repositoryRoot package.manifest.path

end PackageJsonWorkspace

/-! ## Classification and language -/

inductive NpmPackageRole where
  | component
  | aggregator
  deriving DecidableEq, Repr

def unsupportedLocation {α : Type} (what : String) (packageDir : List String) :
    PyResult α :=
  raiseValueError ("unsupported " ++ what ++ " location: /" ++ join "/" packageDir)

/-- `NpmPackageClassifier.classify`, from the first segment of the package path. -/
def classify (packageDir : List String) (rootSegment : String) :
    PyResult NpmPackageRole :=
  if rootSegment = "aggregators" then
    .ok .aggregator
  else if rootSegment ∈
      [".", "tools", "apps", "services", "packages", "libs", "modules"] then
    .ok .component
  else
    unsupportedLocation "npm workspace package" packageDir

def componentKindFor (packageDir : List String) (rootSegment : String) :
    PyResult ComponentKind :=
  if rootSegment ∈ [".", "packages", "modules", "tools"] then .ok .package
  else if rootSegment = "apps" then .ok .binary
  else if rootSegment = "services" then .ok .service
  else if rootSegment = "libs" then .ok .library
  else unsupportedLocation "component" packageDir

/-- `relative.split("/", 1)[0]`. -/
def rootSegment (relative : String) : String :=
  (pieces relative).headD ""

def hasSuffix (suffixes : List String) (text : String) : Bool :=
  suffixes.any (endsWith text)

mutual

def PackageEntry.texts : PackageEntry → List String
  | .text value => [value]
  | .object values => PackageEntry.allTexts values
  | .array values => PackageEntry.allTexts values
  | .other => []

def PackageEntry.allTexts : List PackageEntry → List String
  | [] => []
  | value :: values => value.texts ++ PackageEntry.allTexts values

end

/-- `_has_extension`: some file below the directory has one of the suffixes. -/
def hasExtension (tree : FileTree) (directory : List String) (suffixes : List String) :
    Bool :=
  (tree.filesBelow directory).any fun path => hasSuffix suffixes (path.getLastD "")

def typescriptSuffixes : List String := [".ts", ".tsx", ".d.ts"]

def isTypescript (tree : FileTree) (package : PackageJsonWorkspacePackage) : Bool :=
  tree.pathExists (package.packageDir ++ ["tsconfig.json"]) ||
    ([package.manifest.types, package.manifest.main, package.manifest.module].any
      fun value => value.any (hasSuffix typescriptSuffixes)) ||
    (package.manifest.exports.texts.any (hasSuffix typescriptSuffixes)) ||
    hasExtension tree package.packageDir typescriptSuffixes

/-- `NpmLanguageInferer.infer`. -/
def inferPackageLanguage (tree : FileTree) (package : PackageJsonWorkspacePackage) :
    ProgrammingLanguage :=
  let directory := package.packageDir
  if isTypescript tree package then
    .typescript
  else if hasExtension tree directory [".py"] then
    .python
  else if tree.pathExists (directory ++ ["go.mod"]) ||
      hasExtension tree directory [".go"] then
    .go
  else if tree.pathExists (directory ++ ["Cargo.toml"]) ||
      hasExtension tree directory [".rs"] then
    .rust
  else
    .javascript

/-! ## Source roots and artifact paths -/

def sourceDirCandidates : List String := ["src", "lib", "app"]

def packageOwnedDirCandidates : List String := ["public"]

def artifactDirCandidates : List String := ["dist", "build", "lib"]

def detectDirectories (tree : FileTree) (workspace : PackageJsonWorkspace)
    (package : PackageJsonWorkspacePackage) (candidates : List String) :
    PyResult (List String) := do
  let found ← (candidates.filter fun candidate =>
      tree.isDirectory (package.packageDir ++ [candidate])).mapM fun candidate => do
    let relative ←
      relativePosix workspace.repositoryRoot (package.packageDir ++ [candidate])
    normalizeRepositoryRelativePath relative
  pure (sortedSet found)

def detectSourceRoots (tree : FileTree) (workspace : PackageJsonWorkspace)
    (package : PackageJsonWorkspacePackage) : PyResult (List String) :=
  detectDirectories tree workspace package sourceDirCandidates

def detectPackageOwnedPaths (tree : FileTree) (workspace : PackageJsonWorkspace)
    (package : PackageJsonWorkspacePackage) : PyResult (List String) :=
  detectDirectories tree workspace package packageOwnedDirCandidates

/-- `_add_existing_path`: the path a candidate adds, when it exists. -/
def existingPath (tree : FileTree) (workspace : PackageJsonWorkspace)
    (package : PackageJsonWorkspacePackage) (candidate : String) :
    PyResult (List String) :=
  let path := FileTree.joined package.packageDir candidate
  if !tree.pathExists path then
    .ok []
  else if rootOf candidate = "//" then
    -- a path under `//` is below no other root
    raiseValueError
      ("'//" ++ join "/" path ++ "' is not in the subpath of '/" ++
        join "/" workspace.repositoryRoot ++ "'")
  else do
    let relative ← relativePosix workspace.repositoryRoot path
    pure [relative]

def manifestEntries (manifest : PackageJsonManifest) : List String :=
  [manifest.main, manifest.module, manifest.types].filterMap id ++
    manifest.exports.texts ++
    (match manifest.bin with
      | .text value => [value]
      | .object values => values.filterMap fun
          | .text value => some value
          | _ => none
      | _ => [])

def detectArtifactPaths (tree : FileTree) (workspace : PackageJsonWorkspace)
    (package : PackageJsonWorkspacePackage) : PyResult (List String) := do
  let directories ← (artifactDirCandidates.filter fun candidate =>
      tree.pathExists (package.packageDir ++ [candidate])).mapM fun candidate =>
    relativePosix workspace.repositoryRoot (package.packageDir ++ [candidate])
  let entries ← (manifestEntries package.manifest).mapM (existingPath tree workspace package)
  pure (sortedSet (directories ++ entries.flatten))

def buildPackageAnalysis (tree : FileTree) (workspace : PackageJsonWorkspace)
    (names : List String) (package : PackageJsonWorkspacePackage) :
    PyResult NpmPackageAnalysis := do
  let packageName ← PackageJsonWorkspace.packageName package
  let packagePath ← workspace.repositoryRelPath package
  let manifestPath ← workspace.packageJsonRelPath package
  let componentKind ← componentKindFor package.packageDir (rootSegment packagePath)
  let sourceRoots ← detectSourceRoots tree workspace package
  let packageOwnedPaths ← detectPackageOwnedPaths tree workspace package
  let artifactPaths ← detectArtifactPaths tree workspace package
  let dependencies := package.manifest.dependencies.allDependencyNames
  pure
    { packageName := packageName
      packagePath := packagePath
      manifestPath := manifestPath
      componentKind := componentKind
      language := inferPackageLanguage tree package
      sourceRoots := sourceRoots
      packageOwnedPaths := packageOwnedPaths
      artifactPaths := artifactPaths
      localDependencies := dependencies.filter fun name => name ∈ names
      externalDependencies := dependencies.filter fun name => name ∉ names
      dependencies := package.manifest.dependencies }

def analyzePackage (tree : FileTree) (workspace : PackageJsonWorkspace)
    (names : List String) (package : PackageJsonWorkspacePackage) :
    PyResult (Option NpmPackageAnalysis) := do
  let packagePath ← workspace.repositoryRelPath package
  let role ← classify package.packageDir (rootSegment packagePath)
  match role with
  | .aggregator => pure none
  | .component => do
      let analysis ← buildPackageAnalysis tree workspace names package
      pure (some analysis)

def analyzeComponents (tree : FileTree) (workspace : PackageJsonWorkspace) :
    PyResult (List NpmPackageAnalysis) := do
  let names ← workspace.packageNames
  let analyses ← workspace.packages.mapM (analyzePackage tree workspace names)
  pure (sortedBy NpmPackageAnalysis.packageName (analyses.filterMap id))

/-! ## The provider -/

def rebasePath (attachmentRootRelPath value : String) : String :=
  let withoutDot := removePrefix "./" (strip (replaceChar '\\' '/' value))
  let normalized := if withoutDot = "." then "" else withoutDot
  let attachmentRoot := removeSuffix "/" (strip attachmentRootRelPath)
  if attachmentRoot = "" || attachmentRoot = "." then
    normalized
  else if normalized = "" then
    attachmentRoot
  else
    attachmentRoot ++ "/" ++ normalized

def rebaseComponent (attachmentRootRelPath : String) (analysis : NpmPackageAnalysis) :
    NpmPackageAnalysis :=
  { analysis with
    packagePath := rebasePath attachmentRootRelPath analysis.packagePath
    manifestPath := rebasePath attachmentRootRelPath analysis.manifestPath
    sourceRoots := analysis.sourceRoots.map (rebasePath attachmentRootRelPath)
    packageOwnedPaths := analysis.packageOwnedPaths.map (rebasePath attachmentRootRelPath)
    artifactPaths := analysis.artifactPaths.map (rebasePath attachmentRootRelPath) }

def npmComponentId (packageName : String) : String := "component:npm:" ++ packageName

/-- `NpmModelTranslator.to_component`. -/
def toComponent (analysis : NpmPackageAnalysis) : PyResult Component := do
  let entry ← ProvenanceEntry.create .authoritative .manifest none
    "derived from npm workspace package metadata" [analysis.manifestPath]
  pure
    { id := npmComponentId analysis.packageName
      name := analysis.packageName
      componentKind := analysis.componentKind
      language := analysis.language
      sourceRoots := analysis.sourceRoots
      artifactPaths := dedupeBy id (analysis.artifactPaths ++ analysis.packageOwnedPaths)
      provenance := [entry] }

/-- `NpmProvider.get_components`. -/
def npmComponents (tree : FileTree) (workspace : PackageJsonWorkspace)
    (attachmentRootRelPath : String) : PyResult (List Component) := do
  let analyses ← analyzeComponents tree workspace
  let components ←
    analyses.mapM fun analysis => toComponent (rebaseComponent attachmentRootRelPath analysis)
  pure (sortedBy Component.id components)

/-! ## The file inventory -/

inductive NpmOwnerKind where
  | runner
  | test
  | package
  | manager
  deriving DecidableEq, Repr

def NpmOwnerKind.priority : NpmOwnerKind → ℕ
  | .runner => 0
  | .test => 1
  | .package => 2
  | .manager => 3

structure FileAssignment where
  path : String
  ownerId : String
  priority : ℕ
  deriving DecidableEq, Repr

structure NamedFiles where
  ownerId : String
  paths : List String
  deriving DecidableEq, Repr

def assign (ownerId : String) (kind : NpmOwnerKind) (assignments : List FileAssignment)
    (path : String) : PyResult (List FileAssignment) :=
  let assigned : FileAssignment := ⟨path, ownerId, kind.priority⟩
  match assignments.find? fun current => current.path = path with
  | none => .ok (assignments ++ [assigned])
  | some current =>
      if kind.priority < current.priority then
        .ok (assignments.map fun item => if item.path = path then assigned else item)
      else if kind.priority = current.priority && current.ownerId ≠ ownerId then
        raiseValueError
          ("ambiguous file ownership for " ++ path ++ ": " ++ current.ownerId ++ " vs " ++
            ownerId)
      else
        .ok assignments

/-- The files at or below a path of the repository: `_assign_directory_files` and
`_assign_paths` give them to the owner. -/
def filesAtOrBelow (tree : FileTree) (repositoryRoot : List String) (relative : String) :
    List String :=
  let absolute := FileTree.joined repositoryRoot relative
  if tree.isFile absolute then
    [relative]
  else
    (sortedBy id (tree.filesBelow absolute)).map fun path =>
      FileTree.posixText (path.drop repositoryRoot.length)

def packageFiles (tree : FileTree) (repositoryRoot : List String)
    (analysis : NpmPackageAnalysis) : List String :=
  analysis.manifestPath ::
    ((analysis.sourceRoots ++ analysis.packageOwnedPaths ++ analysis.artifactPaths).flatMap
      (filesAtOrBelow tree repositoryRoot))

def assignNamed (kind : NpmOwnerKind) (assignments : List FileAssignment)
    (named : NamedFiles) : PyResult (List FileAssignment) :=
  named.paths.foldlM (assign named.ownerId kind) assignments

/-- `OwnedFileInventoryBuilder.build`. -/
def buildInventory (tree : FileTree) (repositoryRoot : List String)
    (components : List NpmPackageAnalysis)
    (aggregators runners tests packageManagers : List NamedFiles) :
    PyResult (List FileAssignment) := do
  let assignments ← runners.foldlM (assignNamed .runner) []
  let assignments ← tests.foldlM (assignNamed .test) assignments
  let assignments ← (components.map fun analysis =>
    ⟨npmComponentId analysis.packageName, packageFiles tree repositoryRoot analysis⟩).foldlM
      (assignNamed .package) assignments
  let assignments ← aggregators.foldlM (assignNamed .package) assignments
  let assignments ← packageManagers.foldlM (assignNamed .manager) assignments
  pure (sortedBy FileAssignment.path assignments)

/-- `Path(path).suffix.lower()`. -/
def fileSuffix (path : String) : String :=
  let name := ((segments path).getLastD "").toList
  let ending := (name.reverse.takeWhile (· ≠ '.')).reverse
  if ending = [] || name.length ≤ ending.length + 1 then
    ""
  else
    String.ofList (('.' :: ending).map Char.toLower)

/-- `OwnedFileInventoryBuilder._infer_language`. -/
def inferFileLanguage (path : String) : Option ProgrammingLanguage :=
  let suffix := fileSuffix path
  if suffix ∈ [".ts", ".tsx"] || endsWith path ".d.ts" then some .typescript
  else if suffix ∈ [".js", ".jsx", ".cjs", ".mjs"] then some .javascript
  else if suffix = ".py" then some .python
  else if suffix = ".go" then some .go
  else if suffix = ".rs" then some .rust
  else none

/-- `_rebase_file` and `to_file_info`; the managers' ids come rebased. -/
def toFileInfo (attachmentRootRelPath : String) (assignment : FileAssignment) :
    PyResult FileInfo := do
  let path := rebasePath attachmentRootRelPath assignment.path
  let normalized ← normalizeRepositoryRelativePath path
  let entry ← ProvenanceEntry.create .derived .ownership none
    "assigned to an owner using npm provider ownership derivation" [path]
  pure
    { id := "file:" ++ normalized
      name := path
      repositoryRelPath := path
      language := inferFileLanguage assignment.path
      ownerId := assignment.ownerId
      provenance := [entry] }

/-- `NpmProvider.get_files`. -/
def npmFiles (tree : FileTree) (workspace : PackageJsonWorkspace)
    (attachmentRootRelPath : String)
    (aggregators runners tests packageManagers : List NamedFiles) :
    PyResult (List FileInfo) := do
  let components ← analyzeComponents tree workspace
  let assignments ← buildInventory tree workspace.repositoryRoot components aggregators
    runners tests packageManagers
  let files ← assignments.mapM (toFileInfo attachmentRootRelPath)
  pure (sortedBy FileInfo.id files)

end SuitCode
