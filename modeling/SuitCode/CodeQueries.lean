import SuitCode.FileFacts
import SuitCode.MinimumVerifiedService
import SuitCode.Library.KeyedTable

/-!
# Queries about the code of a file

The code providers of a file answer for its symbols, its relations to other
files and its implementations; the answers of several providers are merged.  The
facts of a file are these answers.
-/

namespace SuitCode

open PosixText KeyedList KeyedTable Memo

/-! ## Merged answers -/

def mergedByKey {α κ : Type} [DecidableEq κ] (key : α → κ) (merge : α → α → α)
    (items : List α) : List α :=
  items.foldl
    (fun rows item =>
      match leader? key rows (key item) with
      | none => rows ++ [item]
      | some kept => upsertRows key (merge kept item) rows)
    []

structure LocationKey where
  repositoryRelPath : String
  lineStart : ℕ
  columnStart : ℕ
  lineEnd : Option ℕ
  columnEnd : Option ℕ
  symbolId : Option String
  deriving DecidableEq

def locationKey (location : CodeLocation) : LocationKey :=
  ⟨location.repositoryRelPath, location.lineStart, location.columnStart,
    location.lineEnd, location.columnEnd, location.symbolId⟩

def mergeLocation (kept item : CodeLocation) : CodeLocation :=
  { item with provenance := mergedProvenance [kept.provenance, item.provenance] }

def renderEdgeKey (edge : RenderEdgeRef) :
    String ×ₗ String ×ₗ ℕ ×ₗ ℕ ×ₗ List String ×ₗ Bool :=
  toLex (edge.relationshipKind.value, toLex (edge.repositoryRelPath,
    toLex (edge.lineStart, toLex (edge.columnStart,
      toLex (edge.propNames, edge.hasSpreadProps)))))

def mergeRenderEdge (kept item : RenderEdgeRef) : RenderEdgeRef :=
  { item with provenance := mergedProvenance [kept.provenance, item.provenance] }

def staticAnalysisSiteKey (site : StaticAnalysisSiteRef) : String × ℕ × ℕ × String :=
  (site.repositoryRelPath, site.lineStart, site.columnStart, site.label)

def invariantFindingKey (finding : InvariantFindingRef) :
    String ×ₗ ℕ ×ₗ ℕ ×ₗ String ×ₗ String :=
  toLex (finding.repositoryRelPath, toLex (finding.lineStart,
    toLex (finding.columnStart, toLex (finding.fieldName, finding.subjectLabel))))

def mergeInvariantFinding (kept item : InvariantFindingRef) : InvariantFindingRef :=
  { item with
    producerSitesPreview := dedupeBy staticAnalysisSiteKey
      (kept.producerSitesPreview ++ item.producerSitesPreview)
    provenance := mergedProvenance [kept.provenance, item.provenance] }

def localFlowEdgeKey (edge : StaticFlowEdgeRef) :
    String ×ₗ ℕ ×ₗ ℕ ×ₗ String ×ₗ String ×ₗ String :=
  toLex (edge.repositoryRelPath, toLex (edge.lineStart, toLex (edge.columnStart,
    toLex (edge.edgeKind.value, toLex (edge.sourceLabel, edge.targetLabel)))))

def mergeLocalFlowEdge (kept item : StaticFlowEdgeRef) : StaticFlowEdgeRef :=
  { item with provenance := mergedProvenance [kept.provenance, item.provenance] }

def fileRelationshipKey (item : FileRelationshipRef) : FileRelationshipKind × String :=
  (item.relationshipKind, item.repositoryRelPath)

def fileRelationshipSortKey (item : FileRelationshipRef) : String ×ₗ String :=
  toLex (item.relationshipKind.value, item.repositoryRelPath)

def mergeFileRelationship (kept item : FileRelationshipRef) : FileRelationshipRef :=
  { item with provenance := mergedProvenance [kept.provenance, item.provenance] }

/-! ## Component dependencies -/

structure DependencyRef where
  targetId : String
  targetKind : DependencyTargetKind
  dependencyScope : DependencyScope
  provenance : List ProvenanceEntry
  deriving DecidableEq, Repr

def dependencyRefSortKey (item : DependencyRef) : String ×ₗ String ×ₗ String :=
  toLex (item.targetKind.value, toLex (item.targetId, item.dependencyScope.value))

/-- `DependencyProjection.refs_for_component`. -/
def refsForComponent (edges : List ComponentDependencyEdge) (componentId : String) :
    List DependencyRef :=
  sortedBy dependencyRefSortKey
    ((edges.filter fun edge => edge.sourceComponentId = componentId).map fun edge =>
      ⟨edge.targetId, edge.targetKind, edge.dependencyScope, edge.provenance⟩)

def Provider.relationshipsOfTier (evidenceTier : CodeEvidenceTier) (provider : Provider) :
    String → PyResult (List FileRelationshipRef) :=
  match evidenceTier with
  | .structural => provider.structuralFileRelationships
  | .semantic => provider.fileRelationships

namespace Repository

def getComponentDependencies (repository : Repository) (componentId : String) :
    PyResult (List DependencyRef) := do
  let _ ← repository.providerForComponentId componentId
  let edges ← repository.componentDependencyEdgesOf componentId
  pure (refsForComponent edges componentId)

def componentWithId (repository : Repository) (componentId : String) : Option Component :=
  (repository.getComponents.filter fun component => component.id = componentId).getLast?

/-! ## Code intelligence -/

def codeAnswers {α : Type} (repository : Repository) (repositoryRelPath : String)
    (answer : Provider → String → PyResult (List α)) : PyResult (List α) := do
  let path ← normalizeRepositoryRelativePath repositoryRelPath
  let providers ← repository.providersForFileRole path .code
  collectAnswers (fun provider => answer provider path) providers

def listStructuralSymbolsInFile (repository : Repository) (repositoryRelPath : String) :
    PyResult (List EntityInfo) := do
  let items ← repository.codeAnswers repositoryRelPath Provider.structuralSymbolsInFile
  pure (sortedBy symbolSortKey items)

def getFileImplementationLocations (repository : Repository) (repositoryRelPath : String) :
    PyResult (List CodeLocation) := do
  let items ← repository.codeAnswers repositoryRelPath Provider.fileImplementationLocations
  pure (sortedBy locationSortKey (mergedByKey locationKey mergeLocation items))

def getFileRenderEdges (repository : Repository) (repositoryRelPath : String)
    (relationshipKind : Option RenderEdgeKind) : PyResult (List RenderEdgeRef) := do
  let items ← repository.codeAnswers repositoryRelPath Provider.fileRenderEdges
  let wanted := items.filter fun item =>
    relationshipKind.all fun kind => item.relationshipKind = kind
  pure (sortedBy renderEdgeKey (mergedByKey renderEdgeKey mergeRenderEdge wanted))

def getFileInvariantFindings (repository : Repository) (repositoryRelPath : String) :
    PyResult (List InvariantFindingRef) := do
  let items ← repository.codeAnswers repositoryRelPath Provider.fileInvariantFindings
  pure (sortedBy invariantFindingKey
    (mergedByKey invariantFindingKey mergeInvariantFinding items))

def getFileLocalFlowEdges (repository : Repository) (repositoryRelPath : String) :
    PyResult (List StaticFlowEdgeRef) := do
  let items ← repository.codeAnswers repositoryRelPath Provider.fileLocalFlowEdges
  pure (sortedBy localFlowEdgeKey (mergedByKey localFlowEdgeKey mergeLocalFlowEdge items))

def projectedRelationship (sourcePath targetPath : String)
    (relationshipKind : FileRelationshipKind) (targetComponentName : String)
    (provenance : List ProvenanceEntry) : PyResult FileRelationshipRef := do
  let direction :=
    if relationshipKind = .imports then
      "imported component artifact files"
    else
      "dependent component artifact files"
  let sourceTool ← preferredSourceTool provenance
  let evidencePaths ←
    if provenance.isEmpty then
      pure [sourcePath, targetPath]
    else
      mergeProvenancePaths provenance 10
  let projected ← derivedSummaryProvenance .dependencyGraph
    ("derived from component dependency graph and projected to " ++ direction ++ " for `" ++
      targetComponentName ++ "`")
    evidencePaths sourceTool
  validated
    [(isBlank targetPath, "repository_rel_path must not be empty"),
      ((provenance ++ [projected]).any fun entry => entry.sourceKind = .heuristic,
        "file relationship provenance must not be heuristic")]
    ⟨targetPath, relationshipKind, provenance ++ [projected]⟩

def projectedToArtifacts (repositoryRelPath : String)
    (relationshipKind : FileRelationshipKind) (component : Component)
    (provenance : List ProvenanceEntry) : PyResult (List FileRelationshipRef) :=
  (component.artifactPaths.filter fun artifactPath => artifactPath ≠ repositoryRelPath).mapM
    fun artifactPath =>
      projectedRelationship repositoryRelPath artifactPath relationshipKind component.name
        provenance

def projectedImports (repository : Repository) (repositoryRelPath : String)
    (primaryComponent : Component) : PyResult (List FileRelationshipRef) := do
  let dependencies ← repository.getComponentDependencies primaryComponent.id
  let items ← dependencies.mapM fun dependency =>
    if dependency.targetKind ≠ .component then
      pure []
    else
      match repository.componentWithId dependency.targetId with
      | none => pure []
      | some component =>
          projectedToArtifacts repositoryRelPath .imports component dependency.provenance
  pure items.flatten

def projectedImportedBy (repository : Repository) (repositoryRelPath : String)
    (primaryComponent : Component) : PyResult (List FileRelationshipRef) := do
  let dependents ← repository.getComponentDependents primaryComponent.id
  let items ← dependents.mapM fun dependentId =>
    match repository.componentWithId dependentId with
    | none => pure []
    | some component => do
        let edges ← repository.componentDependencyEdgesOf dependentId
        let dependencyEdges := edges.filter fun edge =>
          edge.targetKind = .component && edge.targetId = primaryComponent.id
        if dependencyEdges.isEmpty then
          pure []
        else
          projectedToArtifacts repositoryRelPath .importedBy component
            (mergedProvenance (dependencyEdges.map ComponentDependencyEdge.provenance))
  pure items.flatten

def architectureProjectedFileRelationships (repository : Repository)
    (repositoryRelPath : String) (relationshipKind : Option FileRelationshipKind) :
    PyResult (List FileRelationshipRef) := do
  let fileOwner ← repository.getFileOwner repositoryRelPath
  let primaryComponent ←
    repository.primaryComponentForFile repositoryRelPath fileOwner.owner.id
  match primaryComponent with
  | none => pure []
  | some primaryComponent => do
      let imports ←
        if relationshipKind.all fun kind => kind = .imports then
          repository.projectedImports repositoryRelPath primaryComponent
        else
          pure []
      let importedBy ←
        if relationshipKind.all fun kind => kind = .importedBy then
          repository.projectedImportedBy repositoryRelPath primaryComponent
        else
          pure []
      pure (sortedBy fileRelationshipSortKey
        ((imports ++ importedBy).foldl
          (fun rows item => upsertRows fileRelationshipKey item rows) []))

def getFileRelationships (repository : Repository) (repositoryRelPath : String)
    (relationshipKind : Option FileRelationshipKind) (evidenceTier : CodeEvidenceTier) :
    PyResult (List FileRelationshipRef) := do
  let path ← normalizeRepositoryRelativePath repositoryRelPath
  let items ← repository.codeAnswers repositoryRelPath
    (Provider.relationshipsOfTier evidenceTier)
  let wanted := items.filter fun item =>
    relationshipKind.all fun kind => item.relationshipKind = kind
  if wanted.isEmpty then
    let projected ←
      repository.architectureProjectedFileRelationships path relationshipKind
    pure (sortedBy fileRelationshipSortKey projected)
  else
    pure (sortedBy fileRelationshipSortKey
      (mergedByKey fileRelationshipKey mergeFileRelationship wanted))

/-! ## References of a file and of an owner -/

/-- `setdefault` of the locations, until as many are kept as asked for. -/
def keepLocations (maxLocations : Option ℕ) :
    List CodeLocation → List CodeLocation → List CodeLocation × Bool
  | kept, [] => (kept, false)
  | kept, location :: locations =>
      let kept :=
        if kept.any fun other => locationKey other = locationKey location then
          kept
        else
          kept ++ [location]
      if maxLocations.any fun limit => limit ≤ kept.length then
        (kept, true)
      else
        keepLocations maxLocations kept locations

def walkLocations {α : Type} (maxLocations : Option ℕ)
    (find : α → PyResult (List CodeLocation)) :
    List CodeLocation → List α → PyResult (List CodeLocation)
  | kept, [] => .ok kept
  | kept, item :: items => do
      let found ← find item
      match keepLocations maxLocations kept found with
      | (kept, true) => pure kept
      | (kept, false) => walkLocations maxLocations find kept items

def referencesForFile (repository : Repository) (repositoryRelPath : String)
    (maxLocations : Option ℕ) : PyResult (List CodeLocation) :=
  if maxLocations = some 0 then
    raiseValueError "max_locations must be at least 1"
  else do
    let symbols ← repository.listSymbolsInFile repositoryRelPath
    let kept ← walkLocations maxLocations
      (fun symbol => repository.findReferencesBySymbolId symbol.id) [] symbols
    pure (sortedBy locationSortKey kept)

def firstFiles (maxFiles : Option ℕ) (files : List FileInfo) : List FileInfo :=
  match maxFiles with
  | some limit => files.take limit
  | none => files

def referencesForOwner (repository : Repository) (ownerId : String)
    (maxLocations maxFiles : Option ℕ) : PyResult (List CodeLocation) :=
  if maxLocations = some 0 then
    raiseValueError "max_locations must be at least 1"
  else if maxFiles = some 0 then
    raiseValueError "max_files must be at least 1"
  else do
    let files ← repository.listFilesByOwner ownerId
    let kept ← walkLocations maxLocations
      (fun file => repository.referencesForFile file.repositoryRelPath maxLocations) []
      (firstFiles maxFiles files)
    pure (sortedBy locationSortKey kept)

/-! ## The facts of a file -/

def qualityProviderForFile (repository : Repository) (repositoryRelPath providerId : String) :
    PyResult Provider := do
  let providers ← repository.qualityProvidersForFiles [repositoryRelPath]
  match providers.find? fun provider => provider.providerId = providerId with
  | some provider => pure provider
  | none =>
      raiseValueError
        ("provider `" ++ providerId ++ "` does not support quality for `" ++
          repositoryRelPath ++ "` in repository `" ++ repository.root ++ "`")

def answerFact (repository : Repository) : (query : FactQuery) → PyResult query.Answer
  | .ownerForFile path => repository.getFileOwner path
  | .listSymbolsInFile path => repository.listSymbolsInFile path
  | .listStructuralSymbolsInFile path => repository.listStructuralSymbolsInFile path
  | .referencesForFile path => repository.referencesForFile path none
  | .fileRelationships path kind evidenceTier =>
      repository.getFileRelationships path (some kind) evidenceTier
  | .fileRenderEdges path kind => repository.getFileRenderEdges path (some kind)
  | .fileInvariantFindings path => repository.getFileInvariantFindings path
  | .fileLocalFlowEdges path => repository.getFileLocalFlowEdges path
  | .fileImplementationLocations path => repository.getFileImplementationLocations path
  | .relatedTests target => repository.getRelatedTests target
  | .providerIdsForFiles paths => repository.providerIdsForFiles paths
  | .qualityProviderForFile path providerId => do
      let _ ← repository.qualityProviderForFile path providerId
      pure ()

def factServices : FactServices Repository Empty Empty.elim where
  rank := Empty.elim
  depth := 0
  compute cell := cell.elim
  ranked cell := cell.elim
  answer query := Program.ask fun repository => repository.answerFact query
  answer_below _ := Program.readsBelow_ask

def fileFact (repository : Repository) (path : String) (evidenceTier : CodeEvidenceTier)
    (fact : FileFact) : PyResult fact.Value :=
  (factSystem factServices).value repository (.bundle path evidenceTier fact)

def evalFacts {α : Type} (repository : Repository)
    (program : FactProgram Repository Empty Empty.elim α) : PyResult α :=
  program.eval ((factSystem factServices).value repository) repository

def validateExactBatch (items : List String) (fieldName : String) : PyResult Unit :=
  validated
    [(items.isEmpty, fieldName ++ " must not be empty"),
      (items.any isBlank, fieldName ++ " must not contain empty values"),
      (!decide items.Nodup, fieldName ++ " must not contain duplicates")] ()

def describeFiles (repository : Repository) (repositoryRelPaths : List String)
    (options : DescribeOptions) : PyResult (List FileContext) := do
  validateExactBatch repositoryRelPaths "repository_rel_paths"
  repositoryRelPaths.mapM fun path => repository.evalFacts (describeFile path options)

end Repository

end SuitCode
