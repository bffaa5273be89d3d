import SuitCode.ProviderActions
import SuitCode.PythonWorkspace
import SuitCode.Repository

/-!
# The Python provider

What the provider reports of the project at its attachment root.  Ids of
runners, tests and managers carry the attachment root; the evidence of most
nodes is the manifest under its plain name.
-/

namespace SuitCode

open PosixText KeyedList

/-! ## Rebasing -/

def isRepositoryRoot (attachmentRootRelPath : String) : Bool :=
  attachmentRootRelPath ∈ ["", "."]

/-- `PythonProvider._rebase_path`: unlike the npm provider's it keeps a lone `.`. -/
def rebasePythonPath (attachmentRootRelPath value : String) : String :=
  let normalized := removePrefix "./" (strip (replaceChar '\\' '/' value))
  let attachmentRoot := removeSuffix "/" (strip attachmentRootRelPath)
  if attachmentRoot = "" || attachmentRoot = "." then
    normalized
  else if normalized = "" then
    attachmentRoot
  else
    attachmentRoot ++ "/" ++ normalized

def rebasePythonManagerId (attachmentRootRelPath managerId : String) : String :=
  if isRepositoryRoot attachmentRootRelPath then managerId
  else managerId ++ ":" ++ attachmentRootRelPath

def rebasePythonComponent (attachmentRootRelPath : String)
    (analysis : PythonPackageComponentAnalysis) : PythonPackageComponentAnalysis :=
  { analysis with
    packagePath := rebasePythonPath attachmentRootRelPath analysis.packagePath
    sourceRoots := analysis.sourceRoots.map (rebasePythonPath attachmentRootRelPath)
    artifactPaths := analysis.artifactPaths.map (rebasePythonPath attachmentRootRelPath) }

def rebasePythonScript (attachmentRootRelPath scriptName : String) : String :=
  if isRepositoryRoot attachmentRootRelPath then scriptName
  else attachmentRootRelPath ++ ":" ++ scriptName

def rebasePythonRunner (attachmentRootRelPath : String) (analysis : PythonRunnerAnalysis) :
    PythonRunnerAnalysis :=
  { analysis with
    scriptName := rebasePythonScript attachmentRootRelPath analysis.scriptName
    cwd := analysis.cwd.map (rebasePythonPath attachmentRootRelPath)
    referencedFiles := analysis.referencedFiles.map (rebasePythonPath attachmentRootRelPath) }

def rebasePythonPackageManager (attachmentRootRelPath : String)
    (analysis : PythonPackageManagerAnalysis) : PythonPackageManagerAnalysis :=
  { analysis with
    nodeId := rebasePythonManagerId attachmentRootRelPath analysis.nodeId
    configPath := analysis.configPath.map (rebasePythonPath attachmentRootRelPath)
    ownedFiles := analysis.ownedFiles.map (rebasePythonPath attachmentRootRelPath) }

def rebasePythonOwnerId (attachmentRootRelPath ownerId : String) : String :=
  if ownerId = "pkgmgr:python:root" then
    rebasePythonManagerId attachmentRootRelPath ownerId
  else if startsWith ownerId "runner:python:" && !isRepositoryRoot attachmentRootRelPath then
    "runner:python:" ++ attachmentRootRelPath ++ ":" ++ removePrefix "runner:python:" ownerId
  else
    ownerId

def rebasePythonFile (attachmentRootRelPath : String) (analysis : PythonOwnedFileAnalysis) :
    PythonOwnedFileAnalysis :=
  { analysis with
    repositoryRelPath := rebasePythonPath attachmentRootRelPath analysis.repositoryRelPath
    ownerId := rebasePythonOwnerId attachmentRootRelPath analysis.ownerId }

def rebasePythonTest (attachmentRootRelPath : String) (analysis : PythonTestAnalysis) :
    PythonTestAnalysis :=
  { analysis with
    testId :=
      if isRepositoryRoot attachmentRootRelPath then analysis.testId
      else analysis.testId ++ ":" ++ attachmentRootRelPath
    testFiles := analysis.testFiles.map (rebasePythonPath attachmentRootRelPath)
    evidencePaths := analysis.evidencePaths.map (rebasePythonPath attachmentRootRelPath) }

/-! ## Translation -/

def toPythonComponent (item : PythonPackageComponentAnalysis) : PyResult Component := do
  let entry ← ProvenanceEntry.create .authoritative .manifest none
    "derived from pyproject.toml packaging metadata for a top-level Python package"
    ["pyproject.toml"]
  pure
    { id := pythonComponentId item.packageName
      name := item.packageName
      componentKind := item.componentKind
      language := .python
      sourceRoots := item.sourceRoots
      artifactPaths := item.artifactPaths
      provenance := [entry] }

def toPythonRunner (item : PythonRunnerAnalysis) : PyResult Runner := do
  let entry ← ProvenanceEntry.create .authoritative .manifest none
    "derived from pyproject.toml entry-point script metadata" ["pyproject.toml"]
  pure
    { id := pythonRunnerId item.scriptName
      name := item.scriptName
      argv := item.argv
      cwd := item.cwd
      provenance := [entry] }

def toPythonPackageManager (item : PythonPackageManagerAnalysis) : PyResult PackageManager := do
  let entry ← ProvenanceEntry.create .derived .manifest none
    "derived from Python project package-management configuration" ["pyproject.toml"]
  pure
    { id := item.nodeId
      name := item.displayName
      manager := item.manager
      lockfilePath := item.configPath
      provenance := [entry] }

def toPythonFileInfo (item : PythonOwnedFileAnalysis) : PyResult FileInfo := do
  let normalized ← normalizeRepositoryRelativePath item.repositoryRelPath
  let entry ← ProvenanceEntry.create .derived .ownership none
    "assigned to an owner using Python provider ownership derivation"
    (dedupeBy id [item.repositoryRelPath, "pyproject.toml"])
  pure
    { id := "file:" ++ normalized
      name := item.repositoryRelPath
      repositoryRelPath := item.repositoryRelPath
      language := item.language
      ownerId := item.ownerId
      provenance := [entry] }

def pythonTestProvenance (item : PythonTestAnalysis) : PyResult ProvenanceEntry :=
  match item.discoveryMethod with
  | .authoritativePytestCollect =>
      ProvenanceEntry.create .authoritative .testTool (some "pytest")
        "discovered from pytest --collect-only -q" item.evidencePaths
  | .heuristicConfigGlob =>
      ProvenanceEntry.create .heuristic .heuristic none
        "derived from pytest configuration and test file glob heuristics" item.evidencePaths
  | _ =>
      ProvenanceEntry.create .heuristic .heuristic none
        "derived from unittest-oriented heuristics and test file globs" item.evidencePaths

def toPythonDiscoveredTest (item : PythonTestAnalysis) : PyResult DiscoveredTestDefinition := do
  let entry ← pythonTestProvenance item
  pure
    { testDefinition :=
        { id := item.testId
          name := item.name
          framework := item.framework
          testFiles := item.testFiles
          provenance := [entry] }
      provenance := [entry] }

/-! ## Nodes -/

/-- The attachment of the provider: the files, the attachment root, its manifest, the
tools of its environment and the directory below the repository root. -/
structure PythonAttachment where
  tree : FileTree
  root : List String
  manifest : PyProjectManifest
  tools : PythonTools
  rootRelPath : String

namespace PythonAttachment

def componentAnalyses (python : PythonAttachment) :
    PyResult (List PythonPackageComponentAnalysis) := do
  let analyses ← discoverPackages python.tree python.root python.manifest
  pure (analyses.map (rebasePythonComponent python.rootRelPath))

def runnerAnalyses (python : PythonAttachment) : PyResult (List PythonRunnerAnalysis) := do
  let analyses ← analyzePythonRunners python.tree python.root python.manifest
  pure (analyses.map (rebasePythonRunner python.rootRelPath))

def packageManagerAnalyses (python : PythonAttachment) : List PythonPackageManagerAnalysis :=
  [rebasePythonPackageManager python.rootRelPath pythonPackageManager]

def fileAnalyses (python : PythonAttachment) : PyResult (List PythonOwnedFileAnalysis) := do
  let components ← discoverPackages python.tree python.root python.manifest
  let runners ← analyzePythonRunners python.tree python.root python.manifest
  pure ((buildPythonInventory python.tree python.root components runners
    [pythonPackageManager]).map (rebasePythonFile python.rootRelPath))

def testAnalyses (python : PythonAttachment) : PyResult (List PythonTestAnalysis) := do
  let analyses ← discoverPythonTests python.tree python.root python.tools python.manifest
  pure (analyses.map (rebasePythonTest python.rootRelPath))

def getComponents (python : PythonAttachment) : PyResult (List Component) := do
  let analyses ← python.componentAnalyses
  let components ← analyses.mapM toPythonComponent
  pure (sortedBy Component.id components)

def getRunners (python : PythonAttachment) : PyResult (List Runner) := do
  let analyses ← python.runnerAnalyses
  let runners ← analyses.mapM toPythonRunner
  pure (sortedBy Runner.id runners)

def getPackageManagers (python : PythonAttachment) : PyResult (List PackageManager) := do
  let managers ← python.packageManagerAnalyses.mapM toPythonPackageManager
  pure (sortedBy PackageManager.id managers)

def getFiles (python : PythonAttachment) : PyResult (List FileInfo) := do
  let analyses ← python.fileAnalyses
  let files ← analyses.mapM toPythonFileInfo
  pure (sortedBy FileInfo.id files)

def getDiscoveredTests (python : PythonAttachment) :
    PyResult (List DiscoveredTestDefinition) := do
  let analyses ← python.testAnalyses
  let tests ← analyses.mapM toPythonDiscoveredTest
  pure (sortedBy (fun test => test.testDefinition.id) tests)

end PythonAttachment

/-! ## Actions -/

/-- `path.replace("\\", "/").strip().removeprefix("./")`. -/
def normalizedActionPath (path : String) : String :=
  removePrefix "./" (strip (replaceChar '\\' '/' path))

def actionRoots (component : PythonPackageComponentAnalysis) : List String :=
  if component.sourceRoots = [] then [component.packagePath] else component.sourceRoots

def holdsActionPath (component : PythonPackageComponentAnalysis) (path : String) : Bool :=
  (actionRoots component).any fun root =>
    let normalizedRoot := removeSuffix "/" (normalizedActionPath root)
    normalizedRoot ≠ "" && isAtOrBelow (normalizedActionPath path) normalizedRoot

def componentIdsForPaths (components : List PythonPackageComponentAnalysis)
    (paths : List String) : List String :=
  sortedSet (paths.flatMap fun path =>
    (components.filter fun component => holdsActionPath component path).map fun component =>
      pythonComponentId component.packageName)

def mergeOwnerIds (primaryOwnerId : String) (componentIds : List String) : List String :=
  dedupeBy id (primaryOwnerId :: componentIds)

def pythonRunnerAction (components : List PythonPackageComponentAnalysis)
    (runner : PythonRunnerAnalysis) : ProviderActionSpec :=
  let runnerId := pythonRunnerId runner.scriptName
  { actionId := "action:python:runner:" ++ runner.scriptName
    displayName := "Run python entrypoint `" ++ runner.scriptName ++ "`"
    kind := .runnerExecution
    targetId := runnerId
    targetKind := .runner
    ownerIds := mergeOwnerIds runnerId (componentIdsForPaths components runner.referencedFiles)
    argv := runner.argv
    cwd := runner.cwd
    dryRunSupported := true
    provenanceKind := .manifest
    provenanceTool := none
    provenanceSummary := "derived from pyproject.toml entry-point script metadata"
    provenancePaths := "pyproject.toml" :: runner.referencedFiles }

/-- `_test_argv`. -/
def pythonTestArgv (test : PythonTestAnalysis) : List String :=
  if test.framework = .unittest then ["python", "-m", "unittest", "discover"]
  else "pytest" :: test.testFiles

def pythonTestProvenanceSummary (test : PythonTestAnalysis) : String :=
  match test.discoveryMethod with
  | .authoritativePytestCollect => "derived from authoritative pytest collection output"
  | .heuristicUnittest =>
      "derived from unittest heuristics and deterministic unittest discovery command"
  | _ => "derived from pytest configuration heuristics"

def pythonTestAction (components : List PythonPackageComponentAnalysis)
    (test : PythonTestAnalysis) : ProviderActionSpec :=
  let found := componentIdsForPaths components test.testFiles
  let componentIds :=
    if found = [] then
      sortedSet (components.map fun component => pythonComponentId component.packageName)
    else found
  { actionId := "action:python:test:" ++ test.name
    displayName := "Run " ++ test.name ++ " tests"
    kind := .testExecution
    targetId := test.testId
    targetKind := .testDefinition
    ownerIds := mergeOwnerIds test.testId componentIds
    argv := pythonTestArgv test
    cwd := none
    dryRunSupported := true
    provenanceKind :=
      if test.discoveryMethod = .authoritativePytestCollect then .testTool else .heuristic
    provenanceTool := test.discoveryTool
    provenanceSummary := pythonTestProvenanceSummary test
    provenancePaths :=
      if test.evidencePaths = [] then ["pyproject.toml"] else test.evidencePaths }

def pythonBuildAction (components : List PythonPackageComponentAnalysis) :
    ProviderActionSpec :=
  { actionId := "action:python:build:repository"
    displayName := "Build python project"
    kind := .buildExecution
    targetId := "repository:python:root"
    targetKind := .repository
    ownerIds := sortedSet
      (components.map fun component => pythonComponentId component.packageName)
    argv := ["python", "-m", "build"]
    cwd := none
    dryRunSupported := true
    provenanceKind := .manifest
    provenanceTool := none
    provenanceSummary := "derived from pyproject.toml build-system metadata"
    provenancePaths := ["pyproject.toml"] }

/-- `PythonActionService.discover`. -/
def discoverPythonActions (components : List PythonPackageComponentAnalysis)
    (runners : List PythonRunnerAnalysis) (tests : List PythonTestAnalysis)
    (hasBuildSystem : Bool) : PyResult (List ProviderActionSpec) :=
  finalizeActions "python"
    (runners.map (pythonRunnerAction components) ++ tests.map (pythonTestAction components) ++
      if hasBuildSystem then [pythonBuildAction components] else [])

namespace PythonAttachment

def actionSpecs (python : PythonAttachment) : PyResult (List ProviderActionSpec) := do
  let components ← python.componentAnalyses
  let runners ← python.runnerAnalyses
  let tests ← python.testAnalyses
  discoverPythonActions components runners tests python.manifest.hasBuildSystem

def getActions (python : PythonAttachment) : PyResult (List RepositoryAction) := do
  let items ← python.actionSpecs
  ProviderActionTranslator.repositoryActions ⟨"python", "pytest"⟩ items

end PythonAttachment

end SuitCode
