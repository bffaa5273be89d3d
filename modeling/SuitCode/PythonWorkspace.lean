import SuitCode.NpmAnalyses

/-!
# The Python project analyzer

The packages of a project are found from the packaging tables of its manifest
and from the directories below its source roots.  Its runners are the declared
entry points, its tests are collected by pytest or by name, and every Python
file below a package belongs to the component of the package.
-/

namespace SuitCode

open PosixText KeyedList ShellWords

/-! ## Manifests -/

/-- A value of the tool tables; scalars other than texts are not read. -/
inductive TomlValue where
  | text (value : String)
  | table (entries : List (String × TomlValue))
  | array (items : List TomlValue)
  | other
  deriving Repr

namespace TomlValue

/-- `value.get(key)` for a table, and nothing for another value. -/
def get (value : TomlValue) (key : String) : Option TomlValue :=
  match value with
  | .table entries => (entries.find? fun entry => entry.1 = key).map Prod.snd
  | _ => none

/-- `value.get(key)` where it is a table, else an empty table. -/
def tableAt (value : TomlValue) (key : String) : TomlValue :=
  match value.get key with
  | some (.table entries) => .table entries
  | _ => .table []

def textAt (value : TomlValue) (key : String) : Option String :=
  match value.get key with
  | some (.text found) => some found
  | _ => none

def itemsAt (value : TomlValue) (key : String) : List TomlValue :=
  match value.get key with
  | some (.array items) => items
  | _ => []

def text? : TomlValue → Option String
  | .text found => some found
  | _ => none

def textsAt (value : TomlValue) (key : String) : List String :=
  (value.itemsAt key).filterMap text?

end TomlValue

structure PyProjectProject where
  dependencies : List String := []
  optionalDependencies : List (String × List String) := []
  scripts : TextMap := {}
  guiScripts : TextMap := {}
  deriving DecidableEq, Repr

structure PyProjectManifest where
  hasBuildSystem : Bool := false
  project : Option PyProjectProject := none
  tool : TomlValue := .table []
  deriving Repr

/-! ## Packages -/

def normalizeSourceRoot (value : String) : String :=
  let path := stripSlashes (replaceChar '\\' '/' value)
  if path = "" then "." else path

/-- `text.split(".", 1)[0]`. -/
def firstDotPiece (text : String) : String :=
  String.ofList (text.toList.takeWhile (· ≠ '.'))

def normalizePackageName (value : String) : String :=
  firstDotPiece (replaceChar '/' '.' (stripSlashes (replaceChar '\\' '/' value)))

/-- `str(Path(text).parent)`. -/
def pathParent (text : String) : String :=
  let kept := segments text
  if kept.length ≤ 1 then
    if rootOf text = "" then "." else rootOf text
  else
    rootOf text ++ join "/" kept.dropLast

/-- `Path(text).name`. -/
def pathName (text : String) : String := (segments text).getLastD ""

/-- `Path(text).parts[0]`. -/
def pathFirstPart (text : String) : PyResult String :=
  if rootOf text ≠ "" then .ok (rootOf text)
  else
    match segments text with
    | [] => .error .indexError
    | part :: _ => .ok part

def setuptoolsSourceRoots (setuptools : TomlValue) : List String :=
  ((setuptools.tableAt "package-dir").textAt "").toList ++
    ((setuptools.tableAt "packages").tableAt "find").textsAt "where"

def setuptoolsPackages (setuptools : TomlValue) : List String :=
  (setuptools.textsAt "packages").map normalizePackageName

def poetrySourceRoots (poetry : TomlValue) : List String :=
  (poetry.itemsAt "packages").filterMap fun item => item.textAt "from"

def poetryPackages (poetry : TomlValue) : List String :=
  let names := ((poetry.itemsAt "packages").filterMap fun item => item.textAt "include") ++
    ((poetry.textAt "name").map (replaceChar '-' '_')).toList
  (names.filter fun name => name ≠ "").map normalizePackageName

def hatchWheelPackages (hatch : TomlValue) : List String :=
  (((hatch.tableAt "build").tableAt "targets").tableAt "wheel").textsAt "packages"

def hatchSourceRoots (hatch : TomlValue) : List String :=
  (hatchWheelPackages hatch).map fun item => replaceChar '\\' '/' (pathParent item)

def hatchPackages (hatch : TomlValue) : List String :=
  (((hatchWheelPackages hatch).map pathName).filter fun name => name ≠ "").map
    normalizePackageName

def pdmSourceRoots (pdm : TomlValue) : List String :=
  ((pdm.tableAt "build").textAt "package-dir").toList

def pdmPackages (pdm : TomlValue) : PyResult (List String) := do
  let names ← ((pdm.tableAt "build").textsAt "includes").mapM pathFirstPart
  pure ((names.filter fun name => name ≠ "").map normalizePackageName)

def flitSourceRoots (tree : FileTree) (root : List String) : List String :=
  if tree.isDirectory (root ++ ["src"]) then ["src"] else ["."]

def flitPackages (flit : TomlValue) : List String :=
  match (flit.tableAt "module").textAt "name" with
  | some name => [normalizePackageName name]
  | none => (((flit.tableAt "metadata").textAt "module").map normalizePackageName).toList

structure PythonPackagingLayout where
  sourceRoots : List String
  topLevelPackages : List String
  deriving DecidableEq, Repr

def toolLayout (tool : TomlValue) (name : String) (sourceRoots : TomlValue → List String)
    (packages : TomlValue → PyResult (List String)) :
    PyResult (List String × List String) :=
  match tool.get name with
  | some (.table entries) => do
      let found ← packages (.table entries)
      pure (sourceRoots (.table entries), found)
  | _ => .ok ([], [])

def resolveLayout (tree : FileTree) (root : List String) (manifest : PyProjectManifest) :
    PyResult PythonPackagingLayout := do
  let setuptools ← toolLayout manifest.tool "setuptools" setuptoolsSourceRoots
    fun table => .ok (setuptoolsPackages table)
  let poetry ← toolLayout manifest.tool "poetry" poetrySourceRoots
    fun table => .ok (poetryPackages table)
  let hatch ← toolLayout manifest.tool "hatch" hatchSourceRoots
    fun table => .ok (hatchPackages table)
  let pdm ← toolLayout manifest.tool "pdm" pdmSourceRoots pdmPackages
  let flit ← toolLayout manifest.tool "flit" (fun _ => flitSourceRoots tree root)
    fun table => .ok (flitPackages table)
  let tables := [setuptools, poetry, hatch, pdm, flit]
  let declared := tables.flatMap Prod.fst
  let sourceRoots := if declared = [] then flitSourceRoots tree root else declared
  pure
    { sourceRoots := dedupeBy id (sourceRoots.map normalizeSourceRoot)
      topLevelPackages := dedupeBy id
        (((tables.flatMap Prod.snd).filter fun name => name ≠ "").map normalizePackageName) }

def sourceRootPath (root : List String) (sourceRoot : String) : List String :=
  if sourceRoot = "." then root else FileTree.joined root sourceRoot

def childPackages (tree : FileTree) (root : List String) (sourceRoot : String) :
    List String :=
  let directory := sourceRootPath root sourceRoot
  match tree.resolve directory with
  | none => []
  | some real =>
      (tree.names real).filter fun name =>
        tree.isDirectory (directory ++ [name]) && !startsWith name "." &&
          tree.pathExists (directory ++ [name, "__init__.py"])

def discoverTopLevelPackages (tree : FileTree) (root : List String)
    (layout : PythonPackagingLayout) : List String :=
  sortedSet (layout.topLevelPackages ++
    (layout.sourceRoots.filter fun sourceRoot =>
      tree.isDirectory (sourceRootPath root sourceRoot)).flatMap (childPackages tree root))

def resolvePackagePath (tree : FileTree) (root : List String)
    (layout : PythonPackagingLayout) (packageName : String) : PyResult (Option String) :=
  let packageRel := replaceChar '.' '/' packageName
  match layout.sourceRoots.find? fun sourceRoot =>
      tree.pathExists
        (FileTree.joined (sourceRootPath root sourceRoot) packageRel ++ ["__init__.py"]) with
  | none => .ok none
  | some sourceRoot => do
      let path ← relativePosix root (FileTree.joined (sourceRootPath root sourceRoot) packageRel)
      pure (some path)

structure PythonPackageComponentAnalysis where
  packageName : String
  packagePath : String
  componentKind : ComponentKind
  sourceRoots : List String
  artifactPaths : List String
  deriving DecidableEq, Repr

/-- `PythonPackageDiscoverer.discover`. -/
def discoverPackages (tree : FileTree) (root : List String) (manifest : PyProjectManifest) :
    PyResult (List PythonPackageComponentAnalysis) := do
  let layout ← resolveLayout tree root manifest
  let found ← (discoverTopLevelPackages tree root layout).mapM fun packageName => do
    let packagePath ← resolvePackagePath tree root layout packageName
    pure (packagePath.map fun path =>
      ({ packageName := packageName
         packagePath := path
         componentKind := .package
         sourceRoots := [path]
         artifactPaths := [] } : PythonPackageComponentAnalysis))
  pure (sortedBy PythonPackageComponentAnalysis.packageName (found.filterMap id))

/-! ## Runners -/

structure PythonRunnerAnalysis where
  scriptName : String
  entrypoint : String
  argv : List String
  cwd : Option String
  referencedFiles : List String
  deriving DecidableEq, Repr

/-- `str(Path(*parts))`. -/
def pathOfParts (parts : List String) : String :=
  purePosixPath (parts.foldl
    (fun text part => if text = "" || startsWith part "/" then part else text ++ "/" ++ part) "")

def resolveEntrypointFiles (tree : FileTree) (root : List String) (entrypoint : String) :
    PyResult (List String) :=
  let moduleName := strip (String.ofList (entrypoint.toList.takeWhile (· ≠ ':')))
  if moduleName = "" then
    .ok []
  else
    let modulePath := pathOfParts ((moduleName.toList.splitOn '.').map String.ofList)
    let candidates :=
      [FileTree.joined (root ++ ["src"]) (modulePath ++ ".py"),
        FileTree.joined (root ++ ["src"]) modulePath ++ ["__init__.py"],
        FileTree.joined root (modulePath ++ ".py"),
        FileTree.joined root modulePath ++ ["__init__.py"]]
    match candidates.find? tree.pathExists with
    | none => .ok []
    | some candidate => do
        let path ← relativePosix root candidate
        pure [path]

def scriptMap (project : PyProjectProject) : List (String × String) :=
  sortedBy Prod.fst (project.guiScripts.entries ++
    project.scripts.entries.filter fun entry => entry.1 ∉ project.guiScripts.names)

def analyzePythonRunners (tree : FileTree) (root : List String)
    (manifest : PyProjectManifest) : PyResult (List PythonRunnerAnalysis) :=
  match manifest.project with
  | none => .ok []
  | some project =>
      (scriptMap project).mapM fun script => do
        let files ← resolveEntrypointFiles tree root script.2
        pure
          { scriptName := script.1
            entrypoint := script.2
            argv := ["python-entrypoint", script.2]
            cwd := none
            referencedFiles := files }

/-! ## Package manager and external packages -/

structure PythonPackageManagerAnalysis where
  nodeId : String
  displayName : String
  manager : String
  configPath : Option String
  ownedFiles : List String
  deriving DecidableEq, Repr

def pythonPackageManager : PythonPackageManagerAnalysis :=
  { nodeId := "pkgmgr:python:root"
    displayName := "python"
    manager := "python"
    configPath := some "pyproject.toml"
    ownedFiles := ["pyproject.toml"] }

/-- The tools of the environment: the name in a requirement, the output of pytest
where it is installed, the sections of `tox.ini` with their commands, and whether
the configuration files mention pytest. -/
structure PythonTools where
  requirementName : String → PyResult String
  pytest : Option (PyResult (List String)) := none
  toxSections : List (String × String) := []
  setupCfgNamesPytest : Bool := false
  toxNamesPytest : Bool := false

/-! ## Files -/

structure PythonOwnedFileAnalysis where
  repositoryRelPath : String
  ownerId : String
  language : Option ProgrammingLanguage
  deriving DecidableEq, Repr

def ignoredPythonDirs : List String :=
  ["__pycache__", ".git", ".venv", "venv", "env", ".mypy_cache", ".pytest_cache", "tests",
    "tests_unittest"]

/-- `_is_ignored`. -/
def isIgnoredPythonFile (root path : List String) : Bool :=
  (path.drop root.length).dropLast.any fun segment =>
    segment ∈ ignoredPythonDirs || startsWith segment "."

def pythonFilesBelow (tree : FileTree) (root directory : List String) : List String :=
  if !tree.isDirectory directory then
    []
  else
    ((sortedBy id (tree.endingBelow directory ".py")).filter fun path =>
      !isIgnoredPythonFile root path).map fun path =>
        FileTree.posixText (path.drop root.length)

def pythonComponentId (packageName : String) : String := "component:python:" ++ packageName

def pythonRunnerId (scriptName : String) : String := "runner:python:" ++ scriptName

def namedFileLanguage (path : String) : Option ProgrammingLanguage :=
  if endsWith path ".py" then some .python else none

def pythonAssignments (tree : FileTree) (root : List String)
    (components : List PythonPackageComponentAnalysis) (runners : List PythonRunnerAnalysis)
    (packageManagers : List PythonPackageManagerAnalysis) : List PythonOwnedFileAnalysis :=
  (components.flatMap fun component =>
      (pythonFilesBelow tree root (FileTree.joined root component.packagePath)).map fun path =>
        ⟨path, pythonComponentId component.packageName, some .python⟩) ++
    (runners.flatMap fun runner =>
      runner.referencedFiles.map fun path =>
        ⟨path, pythonRunnerId runner.scriptName, namedFileLanguage path⟩) ++
    (packageManagers.flatMap fun manager =>
      manager.ownedFiles.map fun path => ⟨path, manager.nodeId, namedFileLanguage path⟩)

/-- `PythonOwnedFileInventoryBuilder.build`. -/
def buildPythonInventory (tree : FileTree) (root : List String)
    (components : List PythonPackageComponentAnalysis) (runners : List PythonRunnerAnalysis)
    (packageManagers : List PythonPackageManagerAnalysis) : List PythonOwnedFileAnalysis :=
  sortedBy PythonOwnedFileAnalysis.repositoryRelPath
    (dedupeBy PythonOwnedFileAnalysis.repositoryRelPath
      (pythonAssignments tree root components runners packageManagers).reverse)

/-! ## Tests -/

structure PythonTestAnalysis where
  testId : String
  name : String
  framework : TestFramework
  testFiles : List String
  discoveryMethod : TestDiscoveryMethod
  discoveryTool : Option String
  evidencePaths : List String
  deriving DecidableEq, Repr

def collectTestFiles (tree : FileTree) (root : List String) (roots : List String)
    (isTest : String → Bool) : PyResult (List String) := do
  let found ← (roots.flatMap fun name =>
      match (tree.resolve (FileTree.joined root name)).filter fun path =>
          tree.isDirectory path with
      | none => []
      | some directory =>
          (tree.filesBelow directory).filter fun path => isTest (path.getLastD "")).mapM
    (relativePosix root)
  pure (sortedSet found)

def isPytestName (name : String) : Bool :=
  (startsWith name "test_" && endsWith name ".py") || endsWith name "_test.py"

def isUnittestName (name : String) : Bool := startsWith name "test" && endsWith name ".py"

def hasPytestSignal (tree : FileTree) (root : List String) (tools : PythonTools)
    (manifest : PyProjectManifest) : PyResult Bool :=
  if ((manifest.tool.tableAt "pytest").get "ini_options").isSome then .ok true
  else if tree.pathExists (root ++ ["pytest.ini"]) then .ok true
  else if tree.pathExists (root ++ ["setup.cfg"]) && tools.setupCfgNamesPytest then .ok true
  else if tree.pathExists (root ++ ["tox.ini"]) && tools.toxNamesPytest then .ok true
  else
    match manifest.project with
    | none => .ok false
    | some project =>
        firstPytest
          (project.dependencies ++ project.optionalDependencies.flatMap Prod.snd)
where
  firstPytest : List String → PyResult Bool
    | [] => .ok false
    | requirement :: requirements => do
        let name ← tools.requirementName requirement
        if lowerText name = "pytest" then pure true else firstPytest requirements

def pytestRoots (manifest : PyProjectManifest) : List String :=
  match ((manifest.tool.tableAt "pytest").tableAt "ini_options").get "testpaths" with
  | some (.array items) =>
      if items.all fun item => item.text?.isSome then items.filterMap TomlValue.text?
      else ["tests"]
  | _ => ["tests"]

def collectedTestFile (tree : FileTree) (root : List String) (line : String) :
    PyResult String :=
  let candidate := String.ofList (beforeMark line.toList)
  match (tree.resolve (FileTree.joined root candidate)).filter fun path => tree.isFile path with
  | some path => relativePosix root path
  | none =>
      raiseValueError
        ("pytest collection returned an invalid file path `" ++ candidate ++
          "` for repository `/" ++ join "/" root ++ "`")
where
  /-- The characters before `::`. -/
  beforeMark : List Char → List Char
    | [] => []
    | ':' :: ':' :: _ => []
    | c :: pending => c :: beforeMark pending

def collectPytestFiles (tree : FileTree) (root : List String)
    (listing : PyResult (List String)) : PyResult (List String) := do
  let lines ← listing
  let files ← ((lines.map strip).filter fun line =>
      line ≠ "" && !startsWith line "=" && !containsText line " collected in ").mapM
    (collectedTestFile tree root)
  pure (sortedSet files)

def discoverPytest (tree : FileTree) (root : List String) (tools : PythonTools)
    (manifest : PyProjectManifest) : PyResult (Option PythonTestAnalysis) := do
  let signal ← hasPytestSignal tree root tools manifest
  if !signal then
    pure none
  else
    let found ←
      match tools.pytest with
      | none => do
          let files ← collectTestFiles tree root (pytestRoots manifest) isPytestName
          pure (files, TestDiscoveryMethod.heuristicConfigGlob, none)
      | some listing => do
          let files ← collectPytestFiles tree root listing
          pure (files, .authoritativePytestCollect, some "pytest")
    pure (some
      { testId := "test:python:pytest:root"
        name := "pytest"
        framework := .pytest
        testFiles := found.1
        discoveryMethod := found.2.1
        discoveryTool := found.2.2
        evidencePaths := "pyproject.toml" :: found.1 })

/-- The characters at which `splitlines` ends a line. -/
def isLineBoundary (c : Char) : Bool :=
  c.toNat ∈ [0x0a, 0x0b, 0x0c, 0x0d, 0x1c, 0x1d, 0x1e, 0x85, 0x2028, 0x2029]

/-- `text.split(marker, 1)[1]`, when the marker occurs. -/
def textAfter (marker text : String) : Option String :=
  (text.toList.tails.find? marker.toList.isPrefixOf).map fun found =>
    String.ofList (found.drop marker.toList.length)

/-- The directory a unittest command discovers; `splitlines()[0]` of an empty text
raises. -/
def unittestRootOf (commands : String) : PyResult String :=
  match textAfter "discover" commands with
  | none => .ok "tests"
  | some text =>
      let stripped := strip text
      if stripped = "" then
        .error .indexError
      else
        let line := strip (String.ofList
          (stripped.toList.takeWhile fun c => !isLineBoundary c))
        .ok ((splitWords line).headD "tests")

def unittestRoot (tree : FileTree) (root : List String) (tools : PythonTools) :
    PyResult (Option String) :=
  if !tree.pathExists (root ++ ["tox.ini"]) then
    .ok none
  else
    match tools.toxSections.find? fun entry =>
        startsWith entry.1 "testenv" && containsText entry.2 "unittest" with
    | none => .ok none
    | some entry => do
        let found ← unittestRootOf entry.2
        pure (some found)

def discoverUnittest (tree : FileTree) (root : List String) (tools : PythonTools) :
    PyResult (Option PythonTestAnalysis) := do
  let found ← unittestRoot tree root tools
  match found with
  | none => pure none
  | some name => do
      let files ← collectTestFiles tree root [name] isUnittestName
      pure (some
        { testId := "test:python:unittest:root"
          name := "unittest"
          framework := .unittest
          testFiles := files
          discoveryMethod := .heuristicUnittest
          discoveryTool := none
          evidencePaths := "pyproject.toml" :: files })

/-- `PythonTestDiscoverer.discover`. -/
def discoverPythonTests (tree : FileTree) (root : List String) (tools : PythonTools)
    (manifest : PyProjectManifest) : PyResult (List PythonTestAnalysis) := do
  let pytest ← discoverPytest tree root tools manifest
  let unittest ← discoverUnittest tree root tools
  pure (sortedBy PythonTestAnalysis.testId (pytest.toList ++ unittest.toList))

end SuitCode
