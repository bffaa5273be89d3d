import SuitCode.Library.Memo
import SuitCode.SymbolContext

/-!
# File facts and their cache

A repository keeps one bundle of facts for every file and evidence tier; a fact
is computed when it is first read.  Fixing and formatting rewrite files through
the quality providers and leave the bundles as they are.
-/

namespace SuitCode

open PosixText KeyedList Memo

/-! ## Facts -/

inductive CodeEvidenceTier where
  | structural
  | semantic
  deriving DecidableEq, Repr

/-- The properties of `FileSemanticFactsBundle`. -/
inductive FileFact where
  | fileOwner
  | symbols
  | referenceSites
  | dependencyFiles
  | dependentFiles
  | renderChildren
  | renderParents
  | invariantFindings
  | localFlowEdges
  | implementationLocations
  | relatedTests
  | qualityProviderIds
  deriving DecidableEq, Repr

def FileFact.Value : FileFact → Type
  | .fileOwner => FileOwnerInfo
  | .symbols => List EntityInfo
  | .referenceSites => List CodeLocation
  | .dependencyFiles => List FileRelationshipRef
  | .dependentFiles => List FileRelationshipRef
  | .renderChildren => List RenderEdgeRef
  | .renderParents => List RenderEdgeRef
  | .invariantFindings => List InvariantFindingRef
  | .localFlowEdges => List StaticFlowEdgeRef
  | .implementationLocations => List CodeLocation
  | .relatedTests => List ResolvedRelatedTest
  | .qualityProviderIds => List String

inductive FactQuery where
  | ownerForFile (repositoryRelPath : String)
  | listSymbolsInFile (repositoryRelPath : String)
  | listStructuralSymbolsInFile (repositoryRelPath : String)
  | referencesForFile (repositoryRelPath : String)
  | fileRelationships (repositoryRelPath : String) (relationshipKind : FileRelationshipKind)
      (evidenceTier : CodeEvidenceTier)
  | fileRenderEdges (repositoryRelPath : String) (relationshipKind : RenderEdgeKind)
  | fileInvariantFindings (repositoryRelPath : String)
  | fileLocalFlowEdges (repositoryRelPath : String)
  | fileImplementationLocations (repositoryRelPath : String)
  | relatedTests (target : RelatedTestTarget)
  | providerIdsForFiles (repositoryRelPaths : List String)
  | qualityProviderForFile (repositoryRelPath providerId : String)

def FactQuery.Answer : FactQuery → Type
  | .ownerForFile _ => FileOwnerInfo
  | .listSymbolsInFile _ => List EntityInfo
  | .listStructuralSymbolsInFile _ => List EntityInfo
  | .referencesForFile _ => List CodeLocation
  | .fileRelationships _ _ _ => List FileRelationshipRef
  | .fileRenderEdges _ _ => List RenderEdgeRef
  | .fileInvariantFindings _ => List InvariantFindingRef
  | .fileLocalFlowEdges _ => List StaticFlowEdgeRef
  | .fileImplementationLocations _ => List CodeLocation
  | .relatedTests _ => List ResolvedRelatedTest
  | .providerIdsForFiles _ => List String
  | .qualityProviderForFile _ _ => Unit

/-! ## Cells -/

inductive FactCell (Cell : Type) where
  | service (cell : Cell)
  | bundle (repositoryRelPath : String) (evidenceTier : CodeEvidenceTier) (fact : FileFact)
  deriving DecidableEq

def FactCell.Value {Cell : Type} (CellValue : Cell → Type) : FactCell Cell → Type
  | .service cell => CellValue cell
  | .bundle _ _ fact => fact.Value

def FactCell.rankOf {Cell : Type} (rank : Cell → ℕ) (depth : ℕ) : FactCell Cell → ℕ
  | .service cell => rank cell
  | .bundle _ _ _ => depth

abbrev FactProgram (Tree Cell : Type) (CellValue : Cell → Type) (α : Type) :=
  Program Tree (FactCell Cell) (FactCell.Value CellValue) PyError α

/-- The services below the bundles: their answers are deterministic computations
over the file tree and over cells of their own. -/
structure FactServices (Tree Cell : Type) (CellValue : Cell → Type) where
  rank : Cell → ℕ
  depth : ℕ
  compute : (cell : Cell) → FactProgram Tree Cell CellValue (CellValue cell)
  ranked : ∀ cell, (compute cell).ReadsBelow (FactCell.rankOf rank depth) (rank cell)
  answer : (query : FactQuery) → FactProgram Tree Cell CellValue query.Answer
  answer_below :
    ∀ query, (answer query).ReadsBelow (FactCell.rankOf rank depth) depth

section Bundles

variable {Tree Cell : Type} {CellValue : Cell → Type}

def semanticOnly {α : Type} (evidenceTier : CodeEvidenceTier)
    (program : FactProgram Tree Cell CellValue (List α)) :
    FactProgram Tree Cell CellValue (List α) :=
  match evidenceTier with
  | .structural => pure []
  | .semantic => program

def bundleFact (services : FactServices Tree Cell CellValue) (repositoryRelPath : String)
    (evidenceTier : CodeEvidenceTier) :
    (fact : FileFact) → FactProgram Tree Cell CellValue fact.Value
  | .fileOwner => services.answer (.ownerForFile repositoryRelPath)
  | .symbols =>
      match evidenceTier with
      | .structural => services.answer (.listStructuralSymbolsInFile repositoryRelPath)
      | .semantic => services.answer (.listSymbolsInFile repositoryRelPath)
  | .referenceSites =>
      semanticOnly evidenceTier (services.answer (.referencesForFile repositoryRelPath))
  | .dependencyFiles =>
      services.answer (.fileRelationships repositoryRelPath .imports evidenceTier)
  | .dependentFiles =>
      services.answer (.fileRelationships repositoryRelPath .importedBy evidenceTier)
  | .renderChildren => services.answer (.fileRenderEdges repositoryRelPath .renders)
  | .renderParents => services.answer (.fileRenderEdges repositoryRelPath .renderedBy)
  | .invariantFindings =>
      semanticOnly evidenceTier (services.answer (.fileInvariantFindings repositoryRelPath))
  | .localFlowEdges =>
      semanticOnly evidenceTier (services.answer (.fileLocalFlowEdges repositoryRelPath))
  | .implementationLocations =>
      semanticOnly evidenceTier
        (services.answer (.fileImplementationLocations repositoryRelPath))
  | .relatedTests => do
      let target ← Program.ask fun _ => RelatedTestTarget.ofFile repositoryRelPath
      services.answer (.relatedTests target)
  | .qualityProviderIds => services.answer (.providerIdsForFiles [repositoryRelPath])

theorem semanticOnly_below
    {α : Type} {rank : FactCell Cell → ℕ} {bound : ℕ} {evidenceTier : CodeEvidenceTier}
    {program : FactProgram Tree Cell CellValue (List α)}
    (hprogram : program.ReadsBelow rank bound) :
    (semanticOnly evidenceTier program).ReadsBelow rank bound := by
  cases evidenceTier with
  | structural => exact .done
  | semantic => exact hprogram

theorem bundleFact_below
    (services : FactServices Tree Cell CellValue) (repositoryRelPath : String)
    (evidenceTier : CodeEvidenceTier) (fact : FileFact) :
    (bundleFact services repositoryRelPath evidenceTier fact).ReadsBelow
      (FactCell.rankOf services.rank services.depth) services.depth := by
  cases fact with
  | symbols => cases evidenceTier <;> exact services.answer_below _
  | referenceSites => exact semanticOnly_below (services.answer_below _)
  | invariantFindings => exact semanticOnly_below (services.answer_below _)
  | localFlowEdges => exact semanticOnly_below (services.answer_below _)
  | implementationLocations => exact semanticOnly_below (services.answer_below _)
  | relatedTests =>
      unfold bundleFact
      apply Program.ReadsBelow.bind
      · exact Program.readsBelow_ask
      · intro target
        exact services.answer_below _
  | fileOwner => exact services.answer_below _
  | dependencyFiles => exact services.answer_below _
  | dependentFiles => exact services.answer_below _
  | renderChildren => exact services.answer_below _
  | renderParents => exact services.answer_below _
  | qualityProviderIds => exact services.answer_below _

def factSystem (services : FactServices Tree Cell CellValue) :
    System Tree (FactCell Cell) (FactCell.Value CellValue) PyError where
  rank := FactCell.rankOf services.rank services.depth
  compute
    | .service cell => services.compute cell
    | .bundle repositoryRelPath evidenceTier fact =>
        bundleFact services repositoryRelPath evidenceTier fact
  ranked
    | .service cell => services.ranked cell
    | .bundle repositoryRelPath evidenceTier fact =>
        bundleFact_below services repositoryRelPath evidenceTier fact
  recursionError := .runtimeError "maximum recursion depth exceeded"

end Bundles

/-! ## File contexts -/

structure FileFactValues where
  fileOwner : FileOwnerInfo
  symbols : List EntityInfo
  referenceSites : List CodeLocation
  dependencyFiles : List FileRelationshipRef
  dependentFiles : List FileRelationshipRef
  renderChildren : List RenderEdgeRef
  renderParents : List RenderEdgeRef
  invariantFindings : List InvariantFindingRef
  localFlowEdges : List StaticFlowEdgeRef
  implementationLocations : List CodeLocation
  relatedTests : List ResolvedRelatedTest
  qualityProviderIds : List String

structure FileContext where
  fileInfo : FileInfo
  owner : OwnedNodeInfo
  symbolCount : ℕ
  symbolsPreview : List EntityInfo
  referenceSiteCount : ℕ
  referenceSitesPreview : List CodeLocation
  dependencyFileCount : ℕ
  dependencyFilesPreview : List FileRelationshipRef
  dependentFileCount : ℕ
  dependentFilesPreview : List FileRelationshipRef
  renderChildCount : ℕ
  renderChildrenPreview : List RenderEdgeRef
  renderParentCount : ℕ
  renderParentsPreview : List RenderEdgeRef
  invariantFindingCount : ℕ
  invariantFindingsPreview : List InvariantFindingRef
  localFlowEdgeCount : ℕ
  localFlowEdgesPreview : List StaticFlowEdgeRef
  implementationLocationCount : ℕ
  implementationLocationsPreview : List CodeLocation
  relatedTestCount : ℕ
  relatedTestsPreview : List ResolvedRelatedTest
  qualityProviderIds : List String
  provenance : List ProvenanceEntry
  deriving DecidableEq

/-- `preferred_source_tool(provenance) if provenance else lsp tool`. -/
def sourceToolFor (repositoryRelPath : String) (provenance : List ProvenanceEntry) :
    Option String :=
  if provenance.isEmpty then
    some (lspToolForPath repositoryRelPath)
  else
    provenance.findSome? ProvenanceEntry.sourceTool

def summarizedPaths (repositoryRelPath : String)
    (items : List (String × List ProvenanceEntry)) : List String :=
  (dedupeBy id (repositoryRelPath :: items.flatMap fun item =>
    item.1 :: item.2.flatMap ProvenanceEntry.evidencePaths)).take 10

def symbolSourceKind (symbols : List EntityInfo) : SourceKind :=
  let provenance := symbols.flatMap EntityInfo.provenance
  if provenance.any fun entry => entry.sourceKind = .lsp then .lsp
  else if provenance.any fun entry => entry.sourceKind = .syntactic then .syntactic
  else .dependencyGraph

def entryWhen (present : Bool) (entry : PyResult ProvenanceEntry) :
    PyResult (List ProvenanceEntry) :=
  if present then do
    let entry ← entry
    pure [entry]
  else
    pure []

def fileContextProvenance (path : String) (facts : FileFactValues) :
    PyResult (List ProvenanceEntry) := do
  let relationships := (facts.dependencyFiles ++ facts.dependentFiles).map fun item =>
    (item.repositoryRelPath, item.provenance)
  let renders := (facts.renderChildren ++ facts.renderParents).map fun item =>
    (item.repositoryRelPath, item.provenance)
  let references := facts.referenceSites.map fun item =>
    (item.repositoryRelPath, item.provenance)
  let implementations := facts.implementationLocations.map fun item =>
    (item.repositoryRelPath, item.provenance)
  let analysisSites := (facts.invariantFindings.flatMap fun finding =>
      finding.repositoryRelPath ::
        finding.producerSitesPreview.map StaticAnalysisSiteRef.repositoryRelPath) ++
    facts.localFlowEdges.map StaticFlowEdgeRef.repositoryRelPath
  let ownership ← ProvenanceEntry.create .derived .ownership none
    ("file context derived from ownership index for `" ++ path ++ "`") [path]
  let symbols ← entryWhen (!facts.symbols.isEmpty)
    (derivedSummaryProvenance (symbolSourceKind facts.symbols)
      ("file symbols derived from deterministic code symbols for `" ++ path ++ "`") [path]
      (sourceToolFor path (facts.symbols.flatMap EntityInfo.provenance)))
  let references ← entryWhen (!facts.referenceSites.isEmpty)
    (derivedSummaryProvenance .lsp
      ("exact reference sites derived from deterministic symbol-reference queries for `" ++
        path ++ "`")
      (summarizedPaths path references)
      (sourceToolFor path (references.flatMap Prod.snd)))
  let relationships ← entryWhen (!relationships.isEmpty)
    (derivedSummaryProvenance .dependencyGraph
      ("file relationships derived from deterministic dependency-graph resolution for `" ++
        path ++ "`")
      (summarizedPaths path relationships)
      (sourceToolFor path (relationships.flatMap Prod.snd)))
  let renders ← entryWhen (!renders.isEmpty)
    (derivedSummaryProvenance .dependencyGraph
      ("UI render relationships derived from deterministic JSX component resolution for `" ++
        path ++ "`")
      (summarizedPaths path renders)
      (sourceToolFor path (renders.flatMap Prod.snd)))
  let analysis ← entryWhen
    (!facts.invariantFindings.isEmpty || !facts.localFlowEdges.isEmpty)
    (derivedSummaryProvenance .dependencyGraph
      ("file context includes deterministic TypeScript static analysis findings for `" ++
        path ++ "`")
      (summarizedPaths path (analysisSites.map fun site => (site, [])))
      (sourceToolFor path
        (facts.invariantFindings.flatMap InvariantFindingRef.provenance ++
          facts.localFlowEdges.flatMap StaticFlowEdgeRef.provenance)))
  let implementations ← entryWhen (!facts.implementationLocations.isEmpty)
    (ProvenanceEntry.create .authoritative .lsp (some (lspToolForPath path))
      ("implementation candidates derived from deterministic LSP implementation queries " ++
        "for `" ++ path ++ "`")
      (summarizedPaths path implementations))
  let tests ← entryWhen (!facts.relatedTests.isEmpty)
    (summarizedTestProvenance facts.relatedTests "file-related tests")
  pure (ownership :: (symbols ++ references ++ relationships ++ renders ++ analysis ++
    implementations ++ tests))

/-- The options of a `describe_file` call. -/
structure DescribeOptions where
  symbolPreviewLimit : ℕ
  testPreviewLimit : ℕ
  includeReferenceSites : Bool := true
  includeImplementationLocations : Bool := true
  referenceSiteLimit : Option ℕ := none
  evidenceTier : CodeEvidenceTier := .semantic

def fileContextChecks (context : FileContext) : List (Bool × String) :=
  [(context.provenance.isEmpty, "provenance must not be empty"),
    (0 < context.symbolCount &&
        !context.provenance.any fun entry =>
          entry.sourceKind = .lsp || entry.sourceKind = .syntactic,
      "file contexts with symbol evidence must include LSP or syntax provenance"),
    ((0 < context.referenceSiteCount || 0 < context.implementationLocationCount) &&
        !context.provenance.any fun entry => entry.sourceKind = .lsp,
      "file contexts with reference or implementation evidence must include LSP provenance")]

def fileContextOf (path : String) (options : DescribeOptions) (facts : FileFactValues) :
    PyResult FileContext := do
  let provenance ← fileContextProvenance path facts
  let limit := options.symbolPreviewLimit
  let context : FileContext :=
    { fileInfo := facts.fileOwner.fileInfo
      owner := facts.fileOwner.owner
      symbolCount := facts.symbols.length
      symbolsPreview := facts.symbols.take limit
      referenceSiteCount := facts.referenceSites.length
      referenceSitesPreview := facts.referenceSites.take limit
      dependencyFileCount := facts.dependencyFiles.length
      dependencyFilesPreview := facts.dependencyFiles.take limit
      dependentFileCount := facts.dependentFiles.length
      dependentFilesPreview := facts.dependentFiles.take limit
      renderChildCount := facts.renderChildren.length
      renderChildrenPreview := facts.renderChildren.take limit
      renderParentCount := facts.renderParents.length
      renderParentsPreview := facts.renderParents.take limit
      invariantFindingCount := facts.invariantFindings.length
      invariantFindingsPreview := facts.invariantFindings.take limit
      localFlowEdgeCount := facts.localFlowEdges.length
      localFlowEdgesPreview := facts.localFlowEdges.take limit
      implementationLocationCount := facts.implementationLocations.length
      implementationLocationsPreview := facts.implementationLocations.take limit
      relatedTestCount := facts.relatedTests.length
      relatedTestsPreview := facts.relatedTests.take options.testPreviewLimit
      qualityProviderIds := facts.qualityProviderIds
      provenance := provenance }
  validated (fileContextChecks context) context

section Operations

variable {Tree Cell : Type} {CellValue : Cell → Type}

/-- `if self._fact is None: self._fact = …; return self._fact`. -/
def readFact (path : String) (evidenceTier : CodeEvidenceTier) (fact : FileFact) :
    FactProgram Tree Cell CellValue fact.Value :=
  Program.readCell (FactCell.bundle path evidenceTier fact : FactCell Cell)

def readFactWhen {α : Type} (asked : Bool)
    (program : FactProgram Tree Cell CellValue (List α)) :
    FactProgram Tree Cell CellValue (List α) :=
  if asked then program else pure []

/-- The facts in the order in which `build_file_context` first reads them. -/
def readFacts (path : String) (options : DescribeOptions) :
    FactProgram Tree Cell CellValue FileFactValues := do
  let tier := options.evidenceTier
  let referenceSites : List CodeLocation ←
    readFactWhen options.includeReferenceSites (readFact path tier .referenceSites)
  let implementationLocations : List CodeLocation ←
    readFactWhen options.includeImplementationLocations
      (readFact path tier .implementationLocations)
  let fileOwner ← readFact path tier .fileOwner
  let symbols ← readFact path tier .symbols
  let dependencyFiles ← readFact path tier .dependencyFiles
  let dependentFiles ← readFact path tier .dependentFiles
  let renderChildren ← readFact path tier .renderChildren
  let renderParents ← readFact path tier .renderParents
  let invariantFindings ← readFact path tier .invariantFindings
  let localFlowEdges ← readFact path tier .localFlowEdges
  let relatedTests ← readFact path tier .relatedTests
  let qualityProviderIds ← readFact path tier .qualityProviderIds
  pure
    { fileOwner := fileOwner
      symbols := symbols
      referenceSites :=
        match options.referenceSiteLimit with
        | some limit => referenceSites.take limit
        | none => referenceSites
      dependencyFiles := dependencyFiles
      dependentFiles := dependentFiles
      renderChildren := renderChildren
      renderParents := renderParents
      invariantFindings := invariantFindings
      localFlowEdges := localFlowEdges
      implementationLocations := implementationLocations
      relatedTests := relatedTests
      qualityProviderIds := qualityProviderIds }

/-- `FileSemanticFactsService.describe_file`. -/
def describeFile (repositoryRelPath : String) (options : DescribeOptions) :
    FactProgram Tree Cell CellValue FileContext := do
  let path ← Program.ask fun _ => normalizeRepositoryRelativePath repositoryRelPath
  let facts ← readFacts path options
  Program.ask fun _ => fileContextOf path options facts

structure QualityFileResult where
  repositoryRelPath : String
  tool : String
  operation : String
  changed : Bool
  success : Bool
  message : Option String
  appliedFixes : Bool
  contentShaBefore : String
  contentShaAfter : String
  deriving DecidableEq, Repr

/-- The external tools behind the quality providers. -/
structure QualityTools (Tree : Type) where
  lintFile : Tree → String → Bool → String → PyResult QualityFileResult
  formatFile : Tree → String → String → PyResult QualityFileResult
  fixed : Tree → String → String → Tree
  formatted : Tree → String → String → Tree

inductive FileOperation where
  | describeFile (repositoryRelPath : String) (options : DescribeOptions)
  | lintFile (repositoryRelPath : String) (isFix : Bool) (providerId : String)
  | formatFile (repositoryRelPath providerId : String)

inductive FileAnswer where
  | context (context : FileContext)
  | quality (result : PyResult QualityFileResult)
  deriving DecidableEq

def fileProgram (services : FactServices Tree Cell CellValue) (tools : QualityTools Tree) :
    FileOperation → FactProgram Tree Cell CellValue FileAnswer
  | .describeFile repositoryRelPath options => do
      let context ← describeFile repositoryRelPath options
      pure (.context context)
  | .lintFile repositoryRelPath isFix providerId => do
      let _ ← services.answer (.qualityProviderForFile repositoryRelPath providerId)
      Program.ask fun tree =>
        .ok (.quality (tools.lintFile tree repositoryRelPath isFix providerId))
  | .formatFile repositoryRelPath providerId => do
      let _ ← services.answer (.qualityProviderForFile repositoryRelPath providerId)
      Program.ask fun tree => .ok (.quality (tools.formatFile tree repositoryRelPath providerId))

def fileRewrite (tools : QualityTools Tree) :
    FileOperation → PyResult FileAnswer → Tree → Tree
  | .lintFile repositoryRelPath true providerId, .ok _, tree =>
      tools.fixed tree repositoryRelPath providerId
  | .formatFile repositoryRelPath providerId, .ok _, tree =>
      tools.formatted tree repositoryRelPath providerId
  | _, _, tree => tree

theorem readFacts_readsOnly
    (path : String) (options : DescribeOptions) :
    (readFacts path options : FactProgram Tree Cell CellValue FileFactValues).ReadsOnly
      fun cell => ∃ fact, cell = .bundle path options.evidenceTier fact := by
  have hfact : ∀ fact,
      (readFact path options.evidenceTier fact :
          FactProgram Tree Cell CellValue fact.Value).ReadsOnly
        fun cell => ∃ fact, cell = .bundle path options.evidenceTier fact :=
    fun fact => Program.readsOnly_readCell ⟨fact, rfl⟩
  have hwhen : ∀ {α : Type} {asked : Bool} {program : FactProgram Tree Cell CellValue (List α)}
      {allowed : FactCell Cell → Prop}, program.ReadsOnly allowed →
        (readFactWhen asked program).ReadsOnly allowed := by
    intro α asked program allowed hprogram
    cases asked with
    | false => exact .done
    | true => exact hprogram
  unfold readFacts
  apply (hwhen (hfact .referenceSites)).bind
  intro referenceSites
  apply (hwhen (hfact .implementationLocations)).bind
  intro implementationLocations
  apply (hfact .fileOwner).bind
  intro fileOwner
  apply (hfact .symbols).bind
  intro symbols
  apply (hfact .dependencyFiles).bind
  intro dependencyFiles
  apply (hfact .dependentFiles).bind
  intro dependentFiles
  apply (hfact .renderChildren).bind
  intro renderChildren
  apply (hfact .renderParents).bind
  intro renderParents
  apply (hfact .invariantFindings).bind
  intro invariantFindings
  apply (hfact .localFlowEdges).bind
  intro localFlowEdges
  apply (hfact .relatedTests).bind
  intro relatedTests
  apply (hfact .qualityProviderIds).bind
  intro qualityProviderIds
  exact .done

theorem readFacts_below
    (services : FactServices Tree Cell CellValue) (path : String)
    (options : DescribeOptions) :
    (readFacts path options : FactProgram Tree Cell CellValue FileFactValues).ReadsBelow
      (factSystem services).rank (services.depth + 1) := by
  apply (readFacts_readsOnly path options).readsBelow
  rintro cell ⟨fact, rfl⟩
  exact Nat.lt_succ_self services.depth

theorem describeFile_below
    (services : FactServices Tree Cell CellValue) (repositoryRelPath : String)
    (options : DescribeOptions) :
    (describeFile repositoryRelPath options :
        FactProgram Tree Cell CellValue FileContext).ReadsBelow
      (factSystem services).rank (services.depth + 1) := by
  unfold describeFile
  apply Program.ReadsBelow.bind
  · exact Program.readsBelow_ask
  · intro path
    apply (readFacts_below services path options).bind
    intro facts
    exact Program.readsBelow_ask

theorem fileProgram_below
    (services : FactServices Tree Cell CellValue) (tools : QualityTools Tree)
    (operation : FileOperation) :
    (fileProgram services tools operation).ReadsBelow (factSystem services).rank
      (services.depth + 1) := by
  have hanswer : ∀ query, (services.answer query).ReadsBelow (factSystem services).rank
      (services.depth + 1) := by
    intro query
    exact (services.answer_below query).mono (by omega)
  cases operation with
  | describeFile repositoryRelPath options =>
      unfold fileProgram
      apply (describeFile_below services repositoryRelPath options).bind
      intro context
      exact .done
  | lintFile repositoryRelPath isFix providerId =>
      unfold fileProgram
      apply (hanswer _).bind
      intro provider
      exact Program.readsBelow_ask
  | formatFile repositoryRelPath providerId =>
      unfold fileProgram
      apply (hanswer _).bind
      intro provider
      exact Program.readsBelow_ask

def fileService (services : FactServices Tree Cell CellValue) (tools : QualityTools Tree) :
    Service Tree (FactCell Cell) (FactCell.Value CellValue) PyError FileOperation
      FileAnswer where
  toSystem := factSystem services
  bound := services.depth + 1
  program := fileProgram services tools
  program_below := fileProgram_below services tools
  rewrite := fileRewrite tools

variable [DecidableEq Cell]

/-- In every run whose rewritings leave the kept facts as they are, every answer is
that of a repository constructed on the tree of that moment. -/
theorem fileFacts_fresh
    {services : FactServices Tree Cell CellValue} {tools : QualityTools Tree}
    {tree : Tree} {operations : List FileOperation}
    (hkeep : (fileService services tools).RewritesKeepCells ⟨tree, Cache.empty⟩ operations) :
    (fileService services tools).AnswersFresh ⟨tree, Cache.empty⟩ operations :=
  Service.answersFresh_of_rewritesKeepCells
    (System.coherent_empty (factSystem services) tree) hkeep

end Operations

namespace Sample

/-- The lines of the one file `a.py`. -/
abbrev Lines := List String

def ownerOfA : FileOwnerInfo :=
  { fileInfo :=
      { id := "file:a.py"
        name := "a.py"
        repositoryRelPath := "a.py"
        language := some .python
        ownerId := "component:python:a"
        provenance := [⟨.derived, .ownership, none, "owned by the package", ["a.py"]⟩] }
    owner := ⟨"component:python:a", .component, "a"⟩ }

def functionsOf (lines : Lines) : List EntityInfo :=
  (lines.zipIdx 1).filterMap fun entry =>
    if startsWith entry.1 "def " then
      some
        { id := "entity:a.py:function:f"
          name := "f"
          repositoryRelPath := "a.py"
          entityKind := "function"
          lineStart := some entry.2
          columnStart := some 1
          provenance :=
            [⟨.authoritative, .lsp, some "basedpyright", "document symbols", ["a.py"]⟩] }
    else
      none

def answerOfA : (query : FactQuery) → Lines → PyResult query.Answer
  | .ownerForFile _, _ => .ok ownerOfA
  | .listSymbolsInFile _, lines => .ok (functionsOf lines)
  | .listStructuralSymbolsInFile _, lines => .ok (functionsOf lines)
  | .referencesForFile _, _ => .ok ([] : List CodeLocation)
  | .fileRelationships _ _ _, _ => .ok ([] : List FileRelationshipRef)
  | .fileRenderEdges _ _, _ => .ok ([] : List RenderEdgeRef)
  | .fileInvariantFindings _, _ => .ok ([] : List InvariantFindingRef)
  | .fileLocalFlowEdges _, _ => .ok ([] : List StaticFlowEdgeRef)
  | .fileImplementationLocations _, _ => .ok ([] : List CodeLocation)
  | .relatedTests _, _ => .ok ([] : List ResolvedRelatedTest)
  | .providerIdsForFiles _, _ => .ok (["python"] : List String)
  | .qualityProviderForFile _ _, _ => .ok ()

def plainServices : FactServices Lines Empty Empty.elim where
  rank := Empty.elim
  depth := 0
  compute cell := cell.elim
  ranked cell := cell.elim
  answer query := Program.ask (answerOfA query)
  answer_below _ := Program.readsBelow_ask

def blankLinesBefore (lines : Lines) : Lines :=
  if "" ∈ lines then
    lines
  else
    lines.flatMap fun line => if startsWith line "def " then ["", "", line] else [line]

def formatResult (changed : Bool) : QualityFileResult :=
  { repositoryRelPath := "a.py"
    tool := "ruff"
    operation := "format"
    changed := changed
    success := true
    message := none
    appliedFixes := changed
    contentShaBefore := ""
    contentShaAfter := "" }

def formatter : QualityTools Lines where
  lintFile _ _ _ _ := .ok (formatResult false)
  formatFile lines _ _ := .ok (formatResult (blankLinesBefore lines ≠ lines))
  fixed lines _ _ := lines
  formatted lines _ _ := blankLinesBefore lines

def describeA : FileOperation :=
  .describeFile "a.py" { symbolPreviewLimit := 5, testPreviewLimit := 5 }

def formatA : FileOperation := .formatFile "a.py" "python"

def unformatted : Lines := ["import os", "def f(): pass"]

end Sample

def FileAnswer.firstLine : PyResult FileAnswer → Option ℕ
  | .ok (.context found) => found.symbolsPreview.head?.bind EntityInfo.lineStart
  | _ => none

namespace Sample

def plainService : Service Lines (FactCell Empty) (FactCell.Value Empty.elim) PyError
    FileOperation FileAnswer :=
  fileService plainServices formatter

def described : State Lines (FactCell Empty) (FactCell.Value Empty.elim) :=
  (plainService.step ⟨unformatted, Cache.empty⟩ describeA).2

def describedAndFormatted : State Lines (FactCell Empty) (FactCell.Value Empty.elim) :=
  (plainService.step described formatA).2

end Sample

theorem describedAgain_stale :
    FileAnswer.firstLine
        (Sample.plainService.step Sample.describedAndFormatted Sample.describeA).1 = some 2 ∧
      FileAnswer.firstLine
        (Sample.plainService.freshAnswer Sample.describedAndFormatted.world
          Sample.describeA) = some 4 := by
  decide +kernel

/-- After the format the function is described at the line where it was. -/
theorem fileFacts_not_always_fresh :
    ¬ ∀ (Tree Cell : Type) (CellValue : Cell → Type) (_ : DecidableEq Cell)
        (services : FactServices Tree Cell CellValue) (tools : QualityTools Tree)
        (tree : Tree) (operations : List FileOperation),
        (fileService services tools).AnswersFresh ⟨tree, Cache.empty⟩ operations := by
  intro hall
  have hfresh := hall Sample.Lines Empty Empty.elim inferInstance Sample.plainServices
    Sample.formatter Sample.unformatted
    [Sample.describeA, Sample.formatA, Sample.describeA]
  have hsecond :
      (Sample.plainService.step Sample.describedAndFormatted Sample.describeA).1 =
        Sample.plainService.freshAnswer Sample.describedAndFormatted.world
          Sample.describeA := hfresh.2.2.1
  have hlines := congrArg FileAnswer.firstLine hsecond
  rw [describedAgain_stale.1, describedAgain_stale.2] at hlines
  cases hlines

/-- A file which is formatted before it is described is described as it is. -/
theorem fileFacts_fresh_formatFirst :
    Sample.plainService.AnswersFresh ⟨Sample.unformatted, Cache.empty⟩
      [Sample.formatA, Sample.describeA] := by
  refine fileFacts_fresh ⟨?_, ?_, trivial⟩
  · intro cell hkept
    cases hkept
  · intro cell hkept
    rfl

end SuitCode
