import SuitCode.Library.KeyedTable
import SuitCode.Library.ShellWords
import SuitCode.NpmWorkspace

/-!
# The other analyses of an npm workspace

Besides its components a workspace has aggregators, runners for the scripts
which start an executable, tests, the package manager of its manifests and the
external packages which the manifests declare.  The provider rebases each of
them and translates it into the nodes of the repository.
-/

namespace SuitCode

open PosixText KeyedList ShellWords

/-! ## Aggregators -/

structure NpmAggregatorAnalysis where
  packageName : String
  packagePath : String
  manifestPath : String
  deriving DecidableEq, Repr

def analyzeAggregator (workspace : PackageJsonWorkspace)
    (package : PackageJsonWorkspacePackage) : PyResult (Option NpmAggregatorAnalysis) := do
  let packagePath ← workspace.repositoryRelPath package
  let role ← classify package.packageDir (rootSegment packagePath)
  match role with
  | .component => pure none
  | .aggregator => do
      let packageName ← PackageJsonWorkspace.packageName package
      let manifestPath ← workspace.packageJsonRelPath package
      pure (some ⟨packageName, packagePath, manifestPath⟩)

def analyzeAggregators (workspace : PackageJsonWorkspace) :
    PyResult (List NpmAggregatorAnalysis) := do
  let _ ← workspace.packageNames
  let analyses ← workspace.packages.mapM (analyzeAggregator workspace)
  pure (sortedBy NpmAggregatorAnalysis.packageName (analyses.filterMap id))

/-! ## Runners -/

structure NpmRunnerAnalysis where
  packageName : String
  packagePath : String
  scriptName : String
  command : String
  argv : List String
  cwd : Option String
  referencedFiles : List (List String)
  deriving DecidableEq, Repr

/-- `text.lower()` for the ASCII letters. -/
def lowerText (text : String) : String := String.ofList (text.toList.map Char.toLower)

/-- `_tokenize`. -/
def tokenizeCommand (command : String) : List String :=
  match shellSplit command with
  | some words => words
  | none => splitWords (strip command)

def tokenizedSegments (command : String) : List (List String) :=
  ((commandSegments command).map tokenizeCommand).filter fun tokens => !tokens.isEmpty

def isExternalExecutableSegment (tokens : List String) : Bool :=
  match tokens with
  | [] => false
  | token :: _ => lowerText token ∉ ["npm", "npx", "yarn", "pnpm", "corepack"]

def referencedFiles (tree : FileTree) (packageDir : List String) (command : String) :
    List (List String) :=
  dedupeBy id ((tokenizedSegments command).flatMap fun tokens =>
    (tokens.drop 1).filterMap fun argument =>
      if startsWith argument "-" then none
      else (tree.resolve (FileTree.joined packageDir argument)).filter fun path =>
        tree.isFile path)

def inspectCommand (tree : FileTree) (packageDir : List String)
    (packageName packagePath scriptName command : String) : Option NpmRunnerAnalysis :=
  let normalizedCommand := strip command
  if normalizedCommand = "" then
    none
  else if !(tokenizedSegments normalizedCommand).any isExternalExecutableSegment then
    none
  else
    some
      { packageName := packageName
        packagePath := packagePath
        scriptName := scriptName
        command := command
        argv := ["npm", "run", scriptName]
        cwd := if packagePath = "" then none else some packagePath
        referencedFiles := referencedFiles tree packageDir normalizedCommand }

def scriptItems (manifest : PackageJsonManifest) : List (String × String) :=
  sortedBy Prod.fst manifest.scripts.entries

/-- `NpmRunnerScriptInspector.inspect`. -/
def inspectScripts (tree : FileTree) (workspace : PackageJsonWorkspace)
    (package : PackageJsonWorkspacePackage) : PyResult (List NpmRunnerAnalysis) := do
  let packageName ← PackageJsonWorkspace.packageName package
  let packagePath ← workspace.repositoryRelPath package
  pure ((scriptItems package.manifest).filterMap fun script =>
    inspectCommand tree package.packageDir packageName packagePath script.1 script.2)

def npmRunnerSortKey (analysis : NpmRunnerAnalysis) : String ×ₗ String :=
  toLex (analysis.packageName, analysis.scriptName)

def analyzeRunners (tree : FileTree) (workspace : PackageJsonWorkspace) :
    PyResult (List NpmRunnerAnalysis) := do
  let analyses ← workspace.packages.mapM (inspectScripts tree workspace)
  pure (sortedBy npmRunnerSortKey analyses.flatten)

/-! ## Tests -/

inductive TestDiscoveryMethod where
  | authoritativeJestListTests
  | authoritativeVitestListTests
  | heuristicManifestGlob
  | authoritativePytestCollect
  | heuristicConfigGlob
  | heuristicUnittest
  deriving DecidableEq, Repr

structure NpmTestAnalysis where
  packageName : String
  packagePath : String
  scriptName : String
  framework : TestFramework
  testFiles : List String
  discoveryMethod : TestDiscoveryMethod
  discoveryTool : Option String
  evidencePaths : List String
  deriving DecidableEq, Repr

/-- The test tools a workspace resolves; each lists the lines of its output for
a package, or raises for a listing which fails. -/
structure NpmTestTools where
  jest : Option (String → PyResult (List String)) := none
  vitest : Option (String → PyResult (List String)) := none

def listedTestFile (tree : FileTree) (root packagePath : List String)
    (tool packageRoot line : String) : PyResult String :=
  let candidate :=
    if rootOf line = "" then tree.resolve (packagePath ++ segments line)
    else some (segments line)
  match candidate.filter fun path => tree.isFile path with
  | some path => relativePosix root path
  | none =>
      raiseValueError
        (tool ++ " test listing returned an invalid file path `" ++ line ++
          "` for package `" ++ packageRoot ++ "`")

/-- `JestRunner.list_test_files` and `VitestRunner.list_test_files`. -/
def listTestFiles (tree : FileTree) (root : List String) (tool : String)
    (listing : String → PyResult (List String)) (packageRoot : String) :
    PyResult (List String) := do
  let lines ← listing packageRoot
  let packagePath := (tree.resolve (FileTree.joined root packageRoot)).getD []
  let files ← ((lines.map strip).filter fun line => line ≠ "").mapM
    (listedTestFile tree root packagePath tool packageRoot)
  pure (sortedSet files)

def testSuffixes : List String :=
  [".test.ts", ".test.tsx", ".test.js", ".test.jsx", ".test.mjs", ".test.cjs",
    ".spec.ts", ".spec.tsx", ".spec.js", ".spec.jsx", ".spec.mjs", ".spec.cjs", "_test.py"]

/-- `_TEST_PATTERNS` for a file name. -/
def matchesTestPattern (name : String) : Bool :=
  hasSuffix testSuffixes name || (startsWith name "test_" && endsWith name ".py")

def discoverTestFiles (tree : FileTree) (workspace : PackageJsonWorkspace)
    (package : PackageJsonWorkspacePackage) : PyResult (List String) := do
  let found ← ((tree.filesBelow package.packageDir).filter fun path =>
      matchesTestPattern (path.getLastD "")).mapM
    (relativePosix workspace.repositoryRoot)
  pure (sortedSet found)

def preferredTestScripts : List (String × ℕ) :=
  [("test:unit", 0), ("test:ci", 1), ("test:integration", 2), ("test:all", 3)]

def testScriptSortKey (script : String × String) : ℕ ×ₗ ℕ ×ₗ String :=
  let normalizedName := lowerText script.1
  let nameRank := ((leader? Prod.fst preferredTestScripts normalizedName).map Prod.snd).getD 10
  let watchPenalty :=
    if containsText normalizedName "watch" || containsText (lowerText script.2) "--watch" then 1
    else 0
  toLex (watchPenalty, toLex (nameRank, normalizedName))

/-- `_resolve_test_script`, when the package has one. -/
def resolveTestScript (manifest : PackageJsonManifest) : Option (String × String) :=
  match manifest.scripts.get "test" with
  | some command => some ("test", command)
  | none =>
      (sortedBy testScriptSortKey
        ((scriptItems manifest).filter fun script => startsWith script.1 "test:")).head?

def inferTestFramework (command : String) : TestFramework :=
  if containsText (lowerText command) "pytest" then .pytest else .other

def discoverPackageTests (tree : FileTree) (tools : NpmTestTools)
    (workspace : PackageJsonWorkspace) (package : PackageJsonWorkspacePackage)
    (packagePath command : String) :
    PyResult (List String × TestDiscoveryMethod × Option String) :=
  let heuristic := do
    let files ← discoverTestFiles tree workspace package
    pure (files, .heuristicManifestGlob, none)
  if containsText (lowerText command) "jest" then
    match tools.jest with
    | none => heuristic
    | some listing => do
        let files ← listTestFiles tree workspace.repositoryRoot "jest" listing packagePath
        pure (files, .authoritativeJestListTests, some "jest")
  else if containsText (lowerText command) "vitest" then
    match tools.vitest with
    | none => heuristic
    | some listing => do
        let files ← listTestFiles tree workspace.repositoryRoot "vitest" listing packagePath
        pure (files, .authoritativeVitestListTests, some "vitest")
  else
    heuristic

/-- `NpmTestDiscoverer.discover`. -/
def discoverTest (tree : FileTree) (tools : NpmTestTools) (workspace : PackageJsonWorkspace)
    (package : PackageJsonWorkspacePackage) : PyResult (Option NpmTestAnalysis) := do
  let packageName ← PackageJsonWorkspace.packageName package
  match resolveTestScript package.manifest with
  | none => pure none
  | some (scriptName, command) => do
      let packagePath ← workspace.repositoryRelPath package
      let found ← discoverPackageTests tree tools workspace package packagePath command
      pure (some
        { packageName := packageName
          packagePath := packagePath
          scriptName := scriptName
          framework := inferTestFramework command
          testFiles := found.1
          discoveryMethod := found.2.1
          discoveryTool := found.2.2
          evidencePaths := (packagePath ++ "/package.json") :: found.1 })

def analyzeTests (tree : FileTree) (tools : NpmTestTools) (workspace : PackageJsonWorkspace) :
    PyResult (List NpmTestAnalysis) := do
  let analyses ← workspace.packages.mapM (discoverTest tree tools workspace)
  pure (sortedBy NpmTestAnalysis.packageName (analyses.filterMap id))

/-! ## The package manager -/

structure NpmPackageManagerAnalysis where
  nodeId : String
  displayName : String
  manager : String
  configPath : Option String
  ownedFiles : List String
  deriving DecidableEq, Repr

def irrelevantConfigDirs : List String :=
  [".git", ".suit", "node_modules", "dist", "build", ".next", "__pycache__"]

def isRelevantConfig (root path : List String) : Bool :=
  (path.drop root.length).dropLast.all fun segment => segment ∉ irrelevantConfigDirs

/-- The managers of `RepositoryPackageManagerDiscoverer` which are npm's: one, for
the manifests below the root. -/
def analyzePackageManagers (tree : FileTree) (workspace : PackageJsonWorkspace) :
    PyResult (List NpmPackageManagerAnalysis) := do
  let _ ← workspace.packageNames
  let root := workspace.repositoryRoot
  let files := sortedBy id
    ((tree.namedBelow root "package.json").filter (isRelevantConfig root))
  let owned := files.map fun path => FileTree.posixText (path.drop root.length)
  if owned.isEmpty then
    pure []
  else
    pure
      [{ nodeId := "pkgmgr:npm:root"
         displayName := "npm"
         manager := "npm"
         configPath := owned.head?
         ownedFiles := sortedBy id owned }]

/-! ## External packages -/

structure NpmExternalPackageAnalysis where
  packageName : String
  versionSpec : String
  managerId : String
  evidencePaths : List String
  deriving DecidableEq, Repr

structure ExternalDeclaration where
  packageName : String
  versionSpec : String
  manifestPath : String
  deriving DecidableEq, Repr

def externalDeclarations (workspaceNames : List String)
    (manifest : PackageJsonManifest × String) : PyResult (List ExternalDeclaration) :=
  (manifest.1.dependencies.allDependencyNames.filter fun name =>
      name ∉ workspaceNames).mapM fun name =>
    match manifest.1.dependencies.versionFor name with
    | some versionSpec => .ok ⟨name, versionSpec, manifest.2⟩
    | none => raiseValueError ("missing version spec for dependency " ++ name)

def externalPackageOf (declarations : List ExternalDeclaration)
    (first : ExternalDeclaration) : NpmExternalPackageAnalysis :=
  { packageName := first.packageName
    versionSpec := first.versionSpec
    managerId := "pkgmgr:npm:root"
    evidencePaths := sortedSet
      ((declarations.filter fun declaration =>
        declaration.packageName = first.packageName).map ExternalDeclaration.manifestPath) }

def analyzeExternalPackages (workspace : PackageJsonWorkspace) :
    PyResult (List NpmExternalPackageAnalysis) := do
  let names ← workspace.packageNames
  let paths ← workspace.packages.mapM fun package => do
    let path ← workspace.packageJsonRelPath package
    pure (package.manifest, path)
  let declarations ← ((workspace.rootManifest, "package.json") :: paths).mapM
    (externalDeclarations names)
  let all := declarations.flatten
  pure ((sortedBy ExternalDeclaration.packageName
    (dedupeBy ExternalDeclaration.packageName all)).map (externalPackageOf all))

end SuitCode
