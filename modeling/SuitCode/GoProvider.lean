import SuitCode.Library.FileTree
import SuitCode.Library.KeyedList
import SuitCode.RepositoryModels

/-!
# Components and files of the Go provider

The packages of a module are what `go list` reports of it.  Paths are read relative to
the attachment root and then put below the path of the attachment, so that a package in
the attachment root itself has the source root `.`, which becomes `<attachment>/.`.
-/

namespace SuitCode

open PosixText KeyedList ExceptList

/-! ## The workspace analyzer -/

/-- A package as `go list -json ./...` prints it. -/
structure GoListEntry where
  importPath : String
  dir : String
  name : String
  goFiles : List String := []
  testGoFiles : List String := []
  xTestGoFiles : List String := []
  deriving DecidableEq, Repr

structure GoPackageAnalysis where
  importPath : String
  packageName : String
  directoryRelPath : String
  componentKind : ComponentKind
  sourceRoots : List String
  artifactPaths : List String
  goFiles : List String
  testFiles : List String
  deriving DecidableEq, Repr

structure GoPackageManagerAnalysis where
  nodeId : String
  moduleRootRelPath : String
  ownedFiles : List String
  deriving DecidableEq, Repr

structure GoOwnedFileAnalysis where
  repositoryRelPath : String
  ownerId : String
  language : Option ProgrammingLanguage
  deriving DecidableEq, Repr

structure GoModuleAnalysis where
  modulePath : String
  components : List GoPackageAnalysis
  packageManager : GoPackageManagerAnalysis
  files : List GoOwnedFileAnalysis
  deriving DecidableEq, Repr

def relFromRepo (tree : FileTree) (root path : List String) : PyResult String :=
  match tree.resolve path with
  | none => .error (.runtimeError ("Symlink loop from '/" ++ join "/" path ++ "'"))
  | some real =>
      match FileTree.relativeTo root real with
      | none => raiseValueError ("'/" ++ join "/" real ++ "' is not in the subpath of '/" ++
          join "/" root ++ "'")
      | some relative => .ok (FileTree.posixText relative)

/-- One entry of the loop of `_components`, or nothing where it is passed over. -/
def goPackage (tree : FileTree) (root : List String) (nestedModuleRoots : List (List String))
    (entry : GoListEntry) : PyResult (Option GoPackageAnalysis) :=
  let importPath := strip entry.importPath
  let dirPath := strip entry.dir
  let packageName := strip entry.name
  if importPath = "" || dirPath = "" || packageName = "" then
    .ok none
  else
    match tree.resolve (FileTree.joined [] dirPath) with
    | none => .error (.runtimeError ("Symlink loop from '" ++ dirPath ++ "'"))
    | some packageDir =>
        match FileTree.relativeTo root packageDir with
        | none => .ok none
        | some relative =>
            if nestedModuleRoots.any (·.isPrefixOf packageDir) then
              .ok none
            else do
              let directoryRelPath := FileTree.posixText relative
              let goFiles ← entry.goFiles.mapM fun name =>
                relFromRepo tree root (FileTree.joined packageDir name)
              let testFiles ← (entry.testGoFiles ++ entry.xTestGoFiles).mapM fun name =>
                relFromRepo tree root (FileTree.joined packageDir name)
              pure (some
                { importPath := importPath
                  packageName := packageName
                  directoryRelPath := directoryRelPath
                  componentKind := if packageName = "main" then .binary else .package
                  sourceRoots := [directoryRelPath]
                  artifactPaths := sortedBy id goFiles
                  goFiles := sortedBy id goFiles
                  testFiles := sortedBy id testFiles })

/-- `_components`. -/
def goModuleComponents (tree : FileTree) (root moduleRoot : List String)
    (moduleRoots : List (List String)) (entries : List GoListEntry) :
    PyResult (List GoPackageAnalysis) := do
  let nestedModuleRoots := moduleRoots.filter fun other =>
    other ≠ moduleRoot && moduleRoot.isPrefixOf other
  let components ← entries.mapM (goPackage tree root nestedModuleRoots)
  pure (sortedBy GoPackageAnalysis.importPath (components.filterMap id))

def goComponentId (importPath : String) : String := "component:go:" ++ importPath

def goPackageManagerId (moduleRootRelPath : String) : String :=
  if moduleRootRelPath = "" then "pkgmgr:go:root" else "pkgmgr:go:" ++ moduleRootRelPath

/-- `_rel` of a file which is there. -/
def moduleFile (tree : FileTree) (root moduleRoot : List String) (name : String) :
    PyResult (Option String) :=
  if tree.pathExists (moduleRoot ++ [name]) then
    match FileTree.relativeTo root (moduleRoot ++ [name]) with
    | none => raiseValueError ("'/" ++ join "/" (moduleRoot ++ [name]) ++
        "' is not in the subpath of '/" ++ join "/" root ++ "'")
    | some relative => .ok (some (FileTree.posixText relative))
  else
    .ok none

def lastOwners (files : List GoOwnedFileAnalysis) : List GoOwnedFileAnalysis :=
  sortedBy GoOwnedFileAnalysis.repositoryRelPath
    (dedupeBy GoOwnedFileAnalysis.repositoryRelPath files.reverse)

/-- `_files`. -/
def goModuleFiles (components : List GoPackageAnalysis)
    (packageManager : GoPackageManagerAnalysis) : List GoOwnedFileAnalysis :=
  let packageFiles := components.flatMap fun analysis =>
    (analysis.goFiles ++ analysis.testFiles).map fun path =>
      ({ repositoryRelPath := path
         ownerId := goComponentId analysis.importPath
         language := some .go } : GoOwnedFileAnalysis)
  let managerFiles := packageManager.ownedFiles.map fun path =>
    ({ repositoryRelPath := path
       ownerId := packageManager.nodeId
       language := none } : GoOwnedFileAnalysis)
  lastOwners (packageFiles ++ managerFiles)

/-- The module path which a line of `go.mod` declares. -/
def declaredModulePath (line : String) : Option String :=
  let stripped := strip line
  if startsWith stripped "module " then
    let modulePath := strip (removePrefix "module " stripped)
    if modulePath ≠ "" then some modulePath else none
  else
    none

/-- `_module_path`. -/
def modulePathOf (moduleRoot : List String) (lines : List String) : PyResult String :=
  match lines.findSome? declaredModulePath with
  | some modulePath => .ok modulePath
  | none => raiseValueError
      ("go.mod in `/" ++ join "/" moduleRoot ++ "` does not declare a module path")

def analyzeModule (tree : FileTree) (root : List String) (moduleRoots : List (List String))
    (goModLines : List String → PyResult (List String))
    (goList : List String → PyResult (List GoListEntry)) (moduleRoot : List String) :
    PyResult GoModuleAnalysis := do
  let lines ← goModLines moduleRoot
  let modulePath ← modulePathOf moduleRoot lines
  let relative := (FileTree.relativeTo root moduleRoot).getD []
  let moduleRootRelPath := if relative = [] then "" else FileTree.posixText relative
  let goMod ← moduleFile tree root moduleRoot "go.mod"
  let goSum ← moduleFile tree root moduleRoot "go.sum"
  let entries ← goList moduleRoot
  let components ← goModuleComponents tree root moduleRoot moduleRoots entries
  let packageManager : GoPackageManagerAnalysis :=
    { nodeId := goPackageManagerId moduleRootRelPath
      moduleRootRelPath := moduleRootRelPath
      ownedFiles := goMod.toList ++ goSum.toList }
  pure
    { modulePath := modulePath
      components := components
      packageManager := packageManager
      files := goModuleFiles components packageManager }

/-! ## The provider -/

/-- `GoProvider._rebase_rel_path`. -/
def rebaseGoPath (attachmentRootRelPath value : String) : String :=
  let normalized := removePrefix "./" (strip (replaceChar '\\' '/' value))
  let attachmentRoot := removeSuffix "/" (strip attachmentRootRelPath)
  if attachmentRoot = "" || attachmentRoot = "." then
    normalized
  else if normalized = "" then
    attachmentRoot
  else
    attachmentRoot ++ "/" ++ normalized

/-- `_rebase_component`. -/
def rebaseGoComponent (attachmentRootRelPath : String) (analysis : GoPackageAnalysis) :
    GoPackageAnalysis :=
  { analysis with
    directoryRelPath := rebaseGoPath attachmentRootRelPath analysis.directoryRelPath
    sourceRoots := analysis.sourceRoots.map (rebaseGoPath attachmentRootRelPath)
    artifactPaths := analysis.artifactPaths.map (rebaseGoPath attachmentRootRelPath)
    goFiles := analysis.goFiles.map (rebaseGoPath attachmentRootRelPath)
    testFiles := analysis.testFiles.map (rebaseGoPath attachmentRootRelPath) }

def rebaseModule (attachmentRootRelPath : String) (analysis : GoModuleAnalysis) :
    GoModuleAnalysis :=
  let moduleRootRelPath :=
    rebaseGoPath attachmentRootRelPath analysis.packageManager.moduleRootRelPath
  let managerId := goPackageManagerId moduleRootRelPath
  { modulePath := analysis.modulePath
    components := analysis.components.map (rebaseGoComponent attachmentRootRelPath)
    packageManager :=
      { nodeId := managerId
        moduleRootRelPath := moduleRootRelPath
        ownedFiles :=
          analysis.packageManager.ownedFiles.map (rebaseGoPath attachmentRootRelPath) }
    files := analysis.files.map fun item =>
      { item with
        repositoryRelPath := rebaseGoPath attachmentRootRelPath item.repositoryRelPath
        ownerId :=
          if item.ownerId = analysis.packageManager.nodeId then managerId else item.ownerId } }

/-- `_to_component`. -/
def toGoComponent (item : GoPackageAnalysis) : PyResult Component := do
  let entry ← derivedSummaryProvenance .manifest
    "derived from go package analysis for the module workspace"
    (item.directoryRelPath :: item.goFiles) none
  pure
    { id := goComponentId item.importPath
      name := item.importPath
      componentKind := item.componentKind
      language := .go
      sourceRoots := item.sourceRoots
      artifactPaths := item.artifactPaths
      provenance := [entry] }

def toGoFileInfo (item : GoOwnedFileAnalysis) : PyResult FileInfo := do
  let entry ← ProvenanceEntry.create .derived .ownership none
    "derived from go package directory ownership" [item.repositoryRelPath]
  pure
    { id := "file:" ++ item.repositoryRelPath
      name := (segments item.repositoryRelPath).getLastD ""
      repositoryRelPath := item.repositoryRelPath
      language := item.language
      ownerId := item.ownerId
      provenance := [entry] }

structure GoAttachment where
  tree : FileTree
  attachmentRoot : List String
  attachmentRootRelPath : String
  moduleRoots : List (List String)
  goModLines : List String → PyResult (List String)
  goList : List String → PyResult (List GoListEntry)

namespace GoAttachment

variable (attachment : GoAttachment)

def modules : PyResult (List GoModuleAnalysis) := do
  let modules ← attachment.moduleRoots.mapM
    (analyzeModule attachment.tree attachment.attachmentRoot attachment.moduleRoots
      attachment.goModLines attachment.goList)
  pure (modules.map (rebaseModule attachment.attachmentRootRelPath))

/-- `GoProvider.get_components`. -/
def components : PyResult (List Component) := do
  let modules ← attachment.modules
  let components ← (modules.flatMap GoModuleAnalysis.components).mapM toGoComponent
  pure (sortedBy Component.id components)

/-- `GoProvider.get_files`. -/
def files : PyResult (List FileInfo) := do
  let modules ← attachment.modules
  let files ← (lastOwners (modules.flatMap GoModuleAnalysis.files)).mapM toGoFileInfo
  pure (sortedBy FileInfo.id files)

end GoAttachment

end SuitCode
