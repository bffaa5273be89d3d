import SuitCode.Provenance

/-!
# Models of the repository graph

The records which providers report about a repository: nodes, files, tests,
actions, build targets and dependency edges.  Fields which no function of this
development reads are left out.
-/

namespace SuitCode

open PosixText

/-! ## Graph nodes -/

inductive NodeKind where
  | component
  | aggregator
  | runner
  | testDefinition
  | packageManager
  deriving DecidableEq, Repr

def NodeKind.value : NodeKind → String
  | .component => "component"
  | .aggregator => "aggregator"
  | .runner => "runner"
  | .testDefinition => "test_definition"
  | .packageManager => "package_manager"

inductive ProgrammingLanguage where
  | python
  | cpp
  | c
  | java
  | javascript
  | typescript
  | go
  | rust
  | other
  deriving DecidableEq, Repr

def ProgrammingLanguage.value : ProgrammingLanguage → String
  | .python => "python"
  | .cpp => "cpp"
  | .c => "c"
  | .java => "java"
  | .javascript => "javascript"
  | .typescript => "typescript"
  | .go => "go"
  | .rust => "rust"
  | .other => "other"

inductive ComponentKind where
  | library
  | binary
  | service
  | package
  | other
  deriving DecidableEq, Repr

def ComponentKind.value : ComponentKind → String
  | .library => "library"
  | .binary => "binary"
  | .service => "service"
  | .package => "package"
  | .other => "other"

structure Component where
  id : String
  name : String
  componentKind : ComponentKind
  language : ProgrammingLanguage
  sourceRoots : List String
  artifactPaths : List String
  provenance : List ProvenanceEntry
  deriving DecidableEq, Repr

structure Aggregator where
  id : String
  name : String
  provenance : List ProvenanceEntry := []
  deriving DecidableEq, Repr

structure Runner where
  id : String
  name : String
  argv : List String := []
  cwd : Option String
  provenance : List ProvenanceEntry := []
  deriving DecidableEq, Repr

structure PackageManager where
  id : String
  name : String
  manager : String := ""
  lockfilePath : Option String := none
  provenance : List ProvenanceEntry := []
  deriving DecidableEq, Repr

structure ExternalPackage where
  id : String
  name : String
  managerId : Option String
  versionSpec : Option String
  provenance : List ProvenanceEntry
  deriving DecidableEq, Repr

structure FileInfo where
  id : String
  name : String
  repositoryRelPath : String
  language : Option ProgrammingLanguage
  ownerId : String
  provenance : List ProvenanceEntry
  deriving DecidableEq, Repr

structure OwnedNodeInfo where
  id : String
  kind : NodeKind
  name : String
  deriving DecidableEq, Repr

structure FileOwnerInfo where
  fileInfo : FileInfo
  owner : OwnedNodeInfo
  deriving DecidableEq, Repr

/-! ## Symbols -/

structure EntityInfo where
  id : String
  name : String
  repositoryRelPath : String
  entityKind : String
  lineStart : Option ℕ
  columnStart : Option ℕ
  provenance : List ProvenanceEntry
  deriving DecidableEq, Repr

structure CodeLocation where
  repositoryRelPath : String
  lineStart : ℕ
  columnStart : ℕ
  symbolId : Option String
  provenance : List ProvenanceEntry
  lineEnd : Option ℕ := none
  columnEnd : Option ℕ := none
  deriving DecidableEq, Repr

/-! ## Relations between files -/

inductive FileRelationshipKind where
  | imports
  | importedBy
  deriving DecidableEq, Repr

def FileRelationshipKind.value : FileRelationshipKind → String
  | .imports => "imports"
  | .importedBy => "imported_by"

structure FileRelationshipRef where
  repositoryRelPath : String
  relationshipKind : FileRelationshipKind
  provenance : List ProvenanceEntry
  deriving DecidableEq, Repr

inductive RenderEdgeKind where
  | renders
  | renderedBy
  deriving DecidableEq, Repr

def RenderEdgeKind.value : RenderEdgeKind → String
  | .renders => "renders"
  | .renderedBy => "rendered_by"

structure RenderEdgeRef where
  repositoryRelPath : String
  relationshipKind : RenderEdgeKind
  lineStart : ℕ
  columnStart : ℕ
  propNames : List String
  hasSpreadProps : Bool
  provenance : List ProvenanceEntry
  deriving DecidableEq, Repr

structure StaticAnalysisSiteRef where
  repositoryRelPath : String
  lineStart : ℕ
  columnStart : ℕ
  label : String
  provenance : List ProvenanceEntry
  deriving DecidableEq, Repr

structure InvariantFindingRef where
  repositoryRelPath : String
  lineStart : ℕ
  columnStart : ℕ
  fieldName : String
  subjectLabel : String
  producerSitesPreview : List StaticAnalysisSiteRef
  provenance : List ProvenanceEntry
  deriving DecidableEq, Repr

inductive StaticFlowEdgeKind where
  | callsLocalSymbol
  | producesValueFor
  deriving DecidableEq, Repr

def StaticFlowEdgeKind.value : StaticFlowEdgeKind → String
  | .callsLocalSymbol => "calls_local_symbol"
  | .producesValueFor => "produces_value_for"

structure StaticFlowEdgeRef where
  repositoryRelPath : String
  edgeKind : StaticFlowEdgeKind
  lineStart : ℕ
  columnStart : ℕ
  sourceLabel : String
  targetLabel : String
  provenance : List ProvenanceEntry
  deriving DecidableEq, Repr

/-! ## Tests -/

inductive TestFramework where
  | goTest
  | pytest
  | unittest
  | gtest
  | junit
  | other
  deriving DecidableEq, Repr

def TestFramework.value : TestFramework → String
  | .goTest => "go_test"
  | .pytest => "pytest"
  | .unittest => "unittest"
  | .gtest => "gtest"
  | .junit => "junit"
  | .other => "other"

structure TestDefinition where
  id : String
  name : String
  framework : TestFramework
  testFiles : List String
  provenance : List ProvenanceEntry := []
  deriving DecidableEq, Repr

inductive RelationReason where
  | sameOwner
  | sameComponent
  | samePackage
  | dependentComponent
  | repositoryDefaultSuite
  deriving DecidableEq, Repr

def RelationReason.value : RelationReason → String
  | .sameOwner => "same_owner"
  | .sameComponent => "same_component"
  | .samePackage => "same_package"
  | .dependentComponent => "dependent_component"
  | .repositoryDefaultSuite => "repository_default_suite"

structure RelatedTestMatch where
  testDefinition : TestDefinition
  relationReason : RelationReason
  matchedOwnerId : Option String
  matchedRepositoryRelPath : Option String
  deriving DecidableEq, Repr

structure DiscoveredTestDefinition where
  testDefinition : TestDefinition
  provenance : List ProvenanceEntry
  deriving DecidableEq, Repr

def DiscoveredTestDefinition.isAuthoritative (test : DiscoveredTestDefinition) : Bool :=
  isAuthoritativeTestProvenance test.provenance

/-- A match joined with the discovered test of the same id. -/
structure ResolvedRelatedTest where
  relatedMatch : RelatedTestMatch
  discoveredTest : DiscoveredTestDefinition
  sameTest : relatedMatch.testDefinition.id = discoveredTest.testDefinition.id
  deriving DecidableEq

namespace ResolvedRelatedTest

def testDefinition (test : ResolvedRelatedTest) : TestDefinition :=
  test.relatedMatch.testDefinition

def testId (test : ResolvedRelatedTest) : String := test.testDefinition.id

def relationReason (test : ResolvedRelatedTest) : RelationReason :=
  test.relatedMatch.relationReason

def matchedOwnerId (test : ResolvedRelatedTest) : Option String :=
  test.relatedMatch.matchedOwnerId

def matchedRepositoryRelPath (test : ResolvedRelatedTest) : Option String :=
  test.relatedMatch.matchedRepositoryRelPath

def provenance (test : ResolvedRelatedTest) : List ProvenanceEntry :=
  test.discoveredTest.provenance

def isAuthoritative (test : ResolvedRelatedTest) : Bool :=
  test.discoveredTest.isAuthoritative

end ResolvedRelatedTest

structure TestTargetDescription where
  testDefinition : TestDefinition
  commandArgv : List String
  commandCwd : Option String
  isAuthoritative : Bool
  warning : Option String
  provenance : List ProvenanceEntry
  deriving DecidableEq, Repr

inductive RelatedTestTarget where
  | file (repositoryRelPath : String)
  | owner (ownerId : String)
  deriving DecidableEq, Repr

def RelatedTestTarget.ofFile (repositoryRelPath : String) : PyResult RelatedTestTarget := do
  let normalized ← normalizeRepositoryRelativePath repositoryRelPath
  pure (.file normalized)

def RelatedTestTarget.ofOwner (ownerId : String) : PyResult RelatedTestTarget :=
  validated [(isBlank ownerId, "owner_id must not be empty")] (.owner ownerId)

/-! ## Actions and build targets -/

inductive ActionKind where
  | testExecution
  | runnerExecution
  | buildExecution
  deriving DecidableEq, Repr

def ActionKind.value : ActionKind → String
  | .testExecution => "test_execution"
  | .runnerExecution => "runner_execution"
  | .buildExecution => "build_execution"

inductive ActionTargetKind where
  | repository
  | component
  | runner
  | testDefinition
  deriving DecidableEq, Repr

def ActionTargetKind.value : ActionTargetKind → String
  | .repository => "repository"
  | .component => "component"
  | .runner => "runner"
  | .testDefinition => "test_definition"

inductive ActionProofFacet where
  | typescriptTypecheck
  | frontendBundleBuild
  deriving DecidableEq, Repr

def ActionProofFacet.value : ActionProofFacet → String
  | .typescriptTypecheck => "typescript_typecheck"
  | .frontendBundleBuild => "frontend_bundle_build"

structure ActionInvocation where
  argv : List String
  cwd : Option String
  deriving DecidableEq, Repr

structure RepositoryAction where
  id : String
  name : String
  kind : ActionKind
  providerId : String
  targetId : String
  targetKind : ActionTargetKind
  ownerIds : List String
  proofFacets : List ActionProofFacet
  invocation : ActionInvocation
  dryRunSupported : Bool
  provenance : List ProvenanceEntry
  deriving DecidableEq, Repr

structure BuildTargetDescription where
  actionId : String
  name : String
  providerId : String
  targetId : String
  targetKind : ActionTargetKind
  ownerIds : List String
  proofFacets : List ActionProofFacet
  invocation : ActionInvocation
  dryRunSupported : Bool
  provenance : List ProvenanceEntry
  deriving DecidableEq, Repr

inductive ActionSelector where
  | all
  | repositoryRelPath (path : String)
  | ownerId (id : String)
  | componentId (id : String)
  | runnerId (id : String)
  | testId (id : String)
  deriving DecidableEq, Repr

structure ActionQuery where
  selector : ActionSelector
  actionKinds : List ActionKind
  deriving DecidableEq, Repr

/-! ## Dependencies and structured artifacts -/

inductive DependencyTargetKind where
  | component
  | externalPackage
  deriving DecidableEq, Repr

def DependencyTargetKind.value : DependencyTargetKind → String
  | .component => "component"
  | .externalPackage => "external_package"

inductive DependencyScope where
  | runtime
  | dev
  | peer
  | optional
  | declared
  | test
  deriving DecidableEq, Repr

def DependencyScope.value : DependencyScope → String
  | .runtime => "runtime"
  | .dev => "dev"
  | .peer => "peer"
  | .optional => "optional"
  | .declared => "declared"
  | .test => "test"

structure ComponentDependencyEdge where
  sourceComponentId : String
  targetId : String
  targetKind : DependencyTargetKind
  dependencyScope : DependencyScope
  provenance : List ProvenanceEntry
  deriving DecidableEq, Repr

inductive StructuredArtifactKind where
  | markdownDocument
  | openapiDocument
  deriving DecidableEq, Repr

def StructuredArtifactKind.value : StructuredArtifactKind → String
  | .markdownDocument => "markdown_document"
  | .openapiDocument => "openapi_document"

structure StructuredArtifact where
  artifactKind : StructuredArtifactKind
  deriving DecidableEq, Repr

/-! ## Change targets -/

/-- What a change set is asked for: exactly one of a symbol, a file, an owner. -/
inductive ChangeTarget where
  | symbol (symbolId : String)
  | file (repositoryRelPath : String)
  | owner (ownerId : String)
  deriving DecidableEq, Repr

def ChangeTarget.ofFile (repositoryRelPath : String) : PyResult ChangeTarget :=
  validated [(isBlank repositoryRelPath, "repository_rel_path must not be empty")]
    (.file repositoryRelPath)

def ChangeTarget.ofSymbol (symbolId : String) : PyResult ChangeTarget :=
  validated [(isBlank symbolId, "symbol_id must not be empty")] (.symbol symbolId)

end SuitCode
