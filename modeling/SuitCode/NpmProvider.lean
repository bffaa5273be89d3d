import SuitCode.ProviderActions

/-!
# The npm provider

What the provider reports of the workspace at its attachment root: every
analysis is rebased to the repository root and then translated.
-/

namespace SuitCode

open PosixText KeyedList ShellWords

/-! ## Rebasing -/

def rebaseOptionalPath (attachmentRootRelPath : String) (value : Option String) :
    Option String :=
  (value.map (rebasePath attachmentRootRelPath)).filter fun rebased => rebased ≠ ""

def rebaseManagerId (attachmentRootRelPath managerId : String) : String :=
  if attachmentRootRelPath = "" || attachmentRootRelPath = "." then managerId
  else managerId ++ ":" ++ attachmentRootRelPath

def rebaseAggregator (attachmentRootRelPath : String) (analysis : NpmAggregatorAnalysis) :
    NpmAggregatorAnalysis :=
  { analysis with
    packagePath := rebasePath attachmentRootRelPath analysis.packagePath
    manifestPath := rebasePath attachmentRootRelPath analysis.manifestPath }

/-- The rebased files of a runner are read by nothing and stay as they are. -/
def rebaseRunner (attachmentRootRelPath : String) (analysis : NpmRunnerAnalysis) :
    NpmRunnerAnalysis :=
  { analysis with
    packagePath := rebasePath attachmentRootRelPath analysis.packagePath
    cwd := rebaseOptionalPath attachmentRootRelPath analysis.cwd }

def rebaseTest (attachmentRootRelPath : String) (analysis : NpmTestAnalysis) :
    NpmTestAnalysis :=
  { analysis with
    packagePath := rebasePath attachmentRootRelPath analysis.packagePath
    testFiles := analysis.testFiles.map (rebasePath attachmentRootRelPath)
    evidencePaths := analysis.evidencePaths.map (rebasePath attachmentRootRelPath) }

def rebaseExternalPackage (attachmentRootRelPath : String)
    (analysis : NpmExternalPackageAnalysis) : NpmExternalPackageAnalysis :=
  { analysis with
    managerId := rebaseManagerId attachmentRootRelPath analysis.managerId
    evidencePaths := analysis.evidencePaths.map (rebasePath attachmentRootRelPath) }

/-! ## Translation -/

def npmAggregatorId (packageName : String) : String := "aggregator:npm:" ++ packageName

def npmRunnerId (packageName scriptName : String) : String :=
  "runner:npm:" ++ packageName ++ ":" ++ scriptName

def npmTestId (packageName : String) : String := "test:npm:" ++ packageName

def npmExternalId (packageName : String) : String := "external:npm:" ++ packageName

def toAggregator (analysis : NpmAggregatorAnalysis) : PyResult Aggregator := do
  let entry ← ProvenanceEntry.create .derived .manifest none
    "derived from npm workspace package metadata and aggregator classification"
    [analysis.manifestPath]
  pure
    { id := npmAggregatorId analysis.packageName
      name := analysis.packageName
      provenance := [entry] }

def toRunner (analysis : NpmRunnerAnalysis) : PyResult Runner := do
  let entry ← ProvenanceEntry.create .authoritative .manifest none
    "derived from npm package script metadata" [analysis.packagePath ++ "/package.json"]
  pure
    { id := npmRunnerId analysis.packageName analysis.scriptName
      name := analysis.packageName ++ ":" ++ analysis.scriptName
      argv := analysis.argv
      cwd := analysis.cwd
      provenance := [entry] }

/-- `_test_provenance`. -/
def npmTestProvenance (analysis : NpmTestAnalysis) : PyResult ProvenanceEntry :=
  match analysis.discoveryMethod with
  | .authoritativeJestListTests =>
      ProvenanceEntry.create .authoritative .testTool (some "jest")
        "discovered from jest --listTests" analysis.evidencePaths
  | .authoritativeVitestListTests =>
      ProvenanceEntry.create .authoritative .testTool (some "vitest")
        "discovered from vitest list --filesOnly --run" analysis.evidencePaths
  | _ =>
      ProvenanceEntry.create .heuristic .heuristic none
        "derived from package manifest test script metadata and test file globs"
        analysis.evidencePaths

/-- `to_discovered_test_definition`. -/
def toDiscoveredTest (analysis : NpmTestAnalysis) : PyResult DiscoveredTestDefinition := do
  let entry ← npmTestProvenance analysis
  pure
    { testDefinition :=
        { id := npmTestId analysis.packageName
          name := analysis.packageName ++ ":" ++ analysis.scriptName
          framework := analysis.framework
          testFiles := analysis.testFiles
          provenance := [entry] }
      provenance := [entry] }

def toExternalPackage (analysis : NpmExternalPackageAnalysis) : PyResult ExternalPackage := do
  let entry ← ProvenanceEntry.create .authoritative .manifest none
    "derived from npm dependency metadata" analysis.evidencePaths
  pure
    { id := npmExternalId analysis.packageName
      name := analysis.packageName
      managerId := some analysis.managerId
      versionSpec := some analysis.versionSpec
      provenance := [entry] }

/-! ## Nodes -/

/-- The attachment of the provider: the files, the workspace at the attachment
root, the test tools it resolves and the directory below the repository root. -/
structure NpmAttachment where
  tree : FileTree
  workspace : PackageJsonWorkspace
  tools : NpmTestTools := {}
  rootRelPath : String

namespace NpmAttachment

def componentAnalyses (npm : NpmAttachment) : PyResult (List NpmPackageAnalysis) := do
  let analyses ← analyzeComponents npm.tree npm.workspace
  pure (analyses.map (rebaseComponent npm.rootRelPath))

def aggregatorAnalyses (npm : NpmAttachment) : PyResult (List NpmAggregatorAnalysis) := do
  let analyses ← analyzeAggregators npm.workspace
  pure (analyses.map (rebaseAggregator npm.rootRelPath))

def runnerAnalyses (npm : NpmAttachment) : PyResult (List NpmRunnerAnalysis) := do
  let analyses ← analyzeRunners npm.tree npm.workspace
  pure (analyses.map (rebaseRunner npm.rootRelPath))

def testAnalyses (npm : NpmAttachment) : PyResult (List NpmTestAnalysis) := do
  let analyses ← analyzeTests npm.tree npm.tools npm.workspace
  pure (analyses.map (rebaseTest npm.rootRelPath))

def externalPackageAnalyses (npm : NpmAttachment) :
    PyResult (List NpmExternalPackageAnalysis) := do
  let analyses ← analyzeExternalPackages npm.workspace
  pure (analyses.map (rebaseExternalPackage npm.rootRelPath))

def getComponents (npm : NpmAttachment) : PyResult (List Component) := do
  let analyses ← npm.componentAnalyses
  let components ← analyses.mapM toComponent
  pure (sortedBy Component.id components)

def getAggregators (npm : NpmAttachment) : PyResult (List Aggregator) := do
  let analyses ← npm.aggregatorAnalyses
  let aggregators ← analyses.mapM toAggregator
  pure (sortedBy Aggregator.id aggregators)

def getRunners (npm : NpmAttachment) : PyResult (List Runner) := do
  let analyses ← npm.runnerAnalyses
  let runners ← analyses.mapM toRunner
  pure (sortedBy Runner.id runners)

def getDiscoveredTests (npm : NpmAttachment) : PyResult (List DiscoveredTestDefinition) := do
  let analyses ← npm.testAnalyses
  let tests ← analyses.mapM toDiscoveredTest
  pure (sortedBy (fun test => test.testDefinition.id) tests)

def getExternalPackages (npm : NpmAttachment) : PyResult (List ExternalPackage) := do
  let analyses ← npm.externalPackageAnalyses
  let packages ← analyses.mapM toExternalPackage
  pure (sortedBy ExternalPackage.id packages)

def runnerFiles (npm : NpmAttachment) (analysis : NpmRunnerAnalysis) :
    PyResult NamedFiles := do
  let paths ← analysis.referencedFiles.mapM (relativePosix npm.workspace.repositoryRoot)
  pure ⟨npmRunnerId analysis.packageName analysis.scriptName, paths⟩

def getFiles (npm : NpmAttachment) : PyResult (List FileInfo) := do
  let aggregators ← analyzeAggregators npm.workspace
  let runners ← analyzeRunners npm.tree npm.workspace
  let tests ← analyzeTests npm.tree npm.tools npm.workspace
  let packageManagers ← analyzePackageManagers npm.tree npm.workspace
  let runnerFiles ← runners.mapM npm.runnerFiles
  npmFiles npm.tree npm.workspace npm.rootRelPath
    (aggregators.map fun item => ⟨npmAggregatorId item.packageName, [item.manifestPath]⟩)
    runnerFiles
    (tests.map fun item => ⟨npmTestId item.packageName, item.testFiles⟩)
    (packageManagers.map fun item =>
      ⟨rebaseManagerId npm.rootRelPath item.nodeId, item.ownedFiles⟩)

end NpmAttachment

/-! ## Actions -/

def normalizeExecutable (token : String) : String :=
  let name := ((token.toList.splitOn '/').map String.ofList).getLastD ""
  let lowered := lowerText (((name.toList.splitOn '\\').map String.ofList).getLastD "")
  match [".cmd", ".exe", ".js", ".mjs", ".cjs"].find? (endsWith lowered) with
  | some suffix => removeSuffix suffix lowered
  | none => lowered

def isTypescriptTypecheck (tokens : List String) : Bool :=
  match tokens with
  | [] => false
  | token :: args =>
      normalizeExecutable token = "tsc" &&
        ["--noEmit", "-b", "--build"].any fun option => option ∈ args

def isViteBuild (tokens : List String) : Bool :=
  match tokens with
  | token :: command :: _ => normalizeExecutable token = "vite" && command = "build"
  | _ => false

def buildProofFacets (command : String) : List ActionProofFacet :=
  dedupeBy id ((tokenizedSegments command).flatMap fun tokens =>
    (if isTypescriptTypecheck tokens then [.typescriptTypecheck] else []) ++
      (if isViteBuild tokens then [.frontendBundleBuild] else []))

def componentIdByPackage (components : List NpmPackageAnalysis) (packageName : String) :
    Option String :=
  (leader? NpmPackageAnalysis.packageName components packageName).map fun component =>
    npmComponentId component.packageName

def npmRunnerAction (components : List NpmPackageAnalysis) (runner : NpmRunnerAnalysis) :
    ProviderActionSpec :=
  let runnerId := npmRunnerId runner.packageName runner.scriptName
  { actionId := "action:npm:runner:" ++ runner.packageName ++ ":" ++ runner.scriptName
    displayName := "Run " ++ runner.packageName ++ ":" ++ runner.scriptName
    kind := .runnerExecution
    targetId := runnerId
    targetKind := .runner
    ownerIds := (componentIdByPackage components runner.packageName).toList ++ [runnerId]
    argv := runner.argv
    cwd := runner.cwd
    dryRunSupported := true
    provenanceKind := .manifest
    provenanceTool := none
    provenanceSummary := "derived from npm package script metadata"
    provenancePaths := [runner.packagePath ++ "/package.json"] }

def npmBuildAction (runner : NpmRunnerAnalysis) (componentId : String) : ProviderActionSpec :=
  { actionId := "action:npm:build:" ++ runner.packageName
    displayName := "Build " ++ runner.packageName
    kind := .buildExecution
    targetId := componentId
    targetKind := .component
    ownerIds := [componentId, npmRunnerId runner.packageName runner.scriptName]
    argv := runner.argv
    cwd := runner.cwd
    dryRunSupported := true
    provenanceKind := .manifest
    provenanceTool := none
    provenanceSummary := "derived from npm build script metadata"
    provenancePaths := [runner.packagePath ++ "/package.json"]
    proofFacets := buildProofFacets runner.command }

def npmRunnerActions (components : List NpmPackageAnalysis) (runner : NpmRunnerAnalysis) :
    List ProviderActionSpec :=
  npmRunnerAction components runner ::
    (if runner.scriptName = "build" then
      ((componentIdByPackage components runner.packageName).map (npmBuildAction runner)).toList
    else [])

def npmTestProvenanceSummary (test : NpmTestAnalysis) : String :=
  if test.discoveryMethod = .authoritativeJestListTests then
    "derived from authoritative jest test discovery and npm `" ++ test.scriptName ++ "` script"
  else
    "derived from heuristic npm test discovery and npm `" ++ test.scriptName ++ "` script"

/-- `_test_invocation`. -/
def npmTestInvocation (runners : List NpmRunnerAnalysis) (test : NpmTestAnalysis) :
    List String × Option String :=
  match (runners.filter fun runner =>
      runner.packageName = test.packageName && runner.scriptName = test.scriptName).getLast? with
  | some runner => (runner.argv, runner.cwd)
  | none => (["npm", "run", test.scriptName, "--workspace", test.packageName], none)

def npmTestAction (components : List NpmPackageAnalysis) (runners : List NpmRunnerAnalysis)
    (test : NpmTestAnalysis) : Option ProviderActionSpec :=
  (componentIdByPackage components test.packageName).map fun componentId =>
    let invocation := npmTestInvocation runners test
    { actionId := "action:npm:test:" ++ test.packageName
      displayName := "Run tests for " ++ test.packageName
      kind := .testExecution
      targetId := npmTestId test.packageName
      targetKind := .testDefinition
      ownerIds := [componentId, npmTestId test.packageName]
      argv := invocation.1
      cwd := invocation.2
      dryRunSupported := true
      provenanceKind :=
        if test.discoveryMethod = .authoritativeJestListTests then .testTool else .heuristic
      provenanceTool := test.discoveryTool
      provenanceSummary := npmTestProvenanceSummary test
      provenancePaths :=
        if test.evidencePaths = [] then [test.packagePath ++ "/package.json"]
        else test.evidencePaths }

/-- `NpmActionService.discover`. -/
def discoverNpmActions (components : List NpmPackageAnalysis)
    (runners : List NpmRunnerAnalysis) (tests : List NpmTestAnalysis) :
    PyResult (List ProviderActionSpec) :=
  finalizeActions "npm"
    (runners.flatMap (npmRunnerActions components) ++
      tests.filterMap (npmTestAction components runners))

namespace NpmAttachment

def actionSpecs (npm : NpmAttachment) : PyResult (List ProviderActionSpec) := do
  let components ← npm.componentAnalyses
  let runners ← npm.runnerAnalyses
  let tests ← npm.testAnalyses
  discoverNpmActions components runners tests

def getActions (npm : NpmAttachment) : PyResult (List RepositoryAction) := do
  let items ← npm.actionSpecs
  ProviderActionTranslator.repositoryActions ⟨"npm", "jest"⟩ items

end NpmAttachment

end SuitCode
