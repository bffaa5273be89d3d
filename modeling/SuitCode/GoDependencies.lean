import SuitCode.EvidencePaths
import SuitCode.GoProvider
import SuitCode.Library.FilledTables
import SuitCode.Repository

/-!
# Imports of Go packages

An import which is no package of the repository is resolved to a module of the build list
of some `go.mod`.  The modules of all of them are tried in the order of their external ids,
and the first one whose path is the import or lies before it is taken.
-/

namespace SuitCode

open ExceptList KeyedList KeyedTable PosixText

/-! ## External packages -/

/-- A module as `go list -m -json all` prints it. -/
structure GoListedModule where
  path : Option String := none
  version : Option String := none
  isMain : Bool := false
  deriving DecidableEq, Repr

structure GoModuleListing where
  moduleRootRelPath : String
  moduleFiles : List String := []
  listed : List GoListedModule := []
  deriving DecidableEq, Repr

structure GoExternalPackageAnalysis where
  externalPackageId : String
  packageName : String
  versionSpec : String
  managerId : String
  evidencePaths : List String
  deriving DecidableEq, Repr

/-- `_external_package_id`. -/
def goExternalPackageId (managerId packageName : String) : String :=
  "pkgext:go:" ++ replaceChar ':' '/' managerId ++ ":" ++ packageName

/-- An entry of the loop of `_external_packages`, or nothing where it is passed over. -/
def externalModule (managerId : String) (moduleFiles : List String) (entry : GoListedModule) :
    Option GoExternalPackageAnalysis := do
  let path ← entry.path
  if strip path = "" || entry.isMain then
    none
  else
    some
      { externalPackageId := goExternalPackageId managerId (strip path)
        packageName := strip path
        versionSpec :=
          match entry.version with
          | some version => if strip version = "" then "*" else strip version
          | none => "*"
        managerId := managerId
        evidencePaths := moduleFiles }

/-- `_external_packages`. -/
def externalModules (managerId : String) (listing : GoModuleListing) :
    List GoExternalPackageAnalysis :=
  sortedBy GoExternalPackageAnalysis.packageName
    (listing.listed.filterMap (externalModule managerId listing.moduleFiles))

/-- A component with what its imports are resolved by. -/
structure GoImportingComponent extends GoPackageAnalysis where
  moduleRootRelPath : String
  imports : List String
  deriving DecidableEq, Repr

structure GoDependencySources where
  attachmentRootRelPath : String
  listings : List GoModuleListing
  components : List GoImportingComponent
  deriving DecidableEq, Repr

def GoImportingComponent.managerId (component : GoImportingComponent) : String :=
  goPackageManagerId component.moduleRootRelPath

def coversImport (importPath : String) (externalPath : String) : Bool :=
  importPath = externalPath || startsWith importPath (externalPath ++ "/")

variable {item : GoExternalPackageAnalysis}

namespace GoDependencySources

variable (sources : GoDependencySources)

def rebasedExternals (listing : GoModuleListing) : List GoExternalPackageAnalysis :=
  let managerId := goPackageManagerId
    (rebaseGoPath sources.attachmentRootRelPath listing.moduleRootRelPath)
  (externalModules (goPackageManagerId listing.moduleRootRelPath) listing).map fun item =>
    { item with
      externalPackageId := goExternalPackageId managerId item.packageName
      managerId := managerId
      evidencePaths := item.evidencePaths.map (rebaseGoPath sources.attachmentRootRelPath) }

def externalPackageAnalyses : List GoExternalPackageAnalysis :=
  sortedBy GoExternalPackageAnalysis.externalPackageId
    (fill (fun item => (item.externalPackageId, item.packageName, item.versionSpec, item.managerId))
      (sources.listings.flatMap sources.rebasedExternals))

def externalPackages : List ((String × String) × String) :=
  fill Prod.fst (sources.externalPackageAnalyses.map fun item =>
    ((item.managerId, item.packageName), item.externalPackageId))

def localComponentIds : List (String × String) :=
  fill Prod.fst (sources.components.map fun component =>
    (component.importPath, goComponentId component.importPath))

def importEdge (component : GoImportingComponent) (targetKind : DependencyTargetKind)
    (targetId : String) : PyResult ComponentDependencyEdge := do
  let entry ← derivedSummaryProvenance .dependencyGraph "derived from go package import graph"
    (component.directoryRelPath :: component.goFiles) (some "go list")
  pure
    { sourceComponentId := goComponentId component.importPath
      targetId := targetId
      targetKind := targetKind
      dependencyScope := .declared
      provenance := [entry] }

def importEdges (component : GoImportingComponent) (importPath : String) :
    PyResult (List ComponentDependencyEdge) :=
  match leader? Prod.fst sources.localComponentIds importPath with
  | some entry => do
      let edge ← importEdge component .component entry.2
      pure [edge]
  | none =>
      match sources.externalPackages.find? fun entry => coversImport importPath entry.1.2 with
      | some entry => do
          let edge ← importEdge component .externalPackage entry.2
          pure [edge]
      | none => pure []

/-! ## The order of the modules -/

variable {sources : GoDependencySources}

theorem externalPackageId_eq (hitem : item ∈ sources.externalPackageAnalyses) :
    item.externalPackageId = goExternalPackageId item.managerId item.packageName := by
  rw [externalPackageAnalyses, mem_sortedBy] at hitem
  obtain ⟨listing, -, hlisted⟩ := List.mem_flatMap.mp (mem_of_mem_fill hitem)
  unfold rebasedExternals at hlisted
  obtain ⟨origin, -, horigin⟩ := List.mem_map.mp hlisted
  rw [← horigin]

theorem exists_of_mem_externalPackages {entry : (String × String) × String}
    (hentry : entry ∈ sources.externalPackages) :
    ∃ item ∈ sources.externalPackageAnalyses,
      entry = ((item.managerId, item.packageName), item.externalPackageId) := by
  obtain ⟨item, hitem, heq⟩ := List.mem_map.mp (mem_of_mem_fill hentry)
  exact ⟨item, hitem, heq.symm⟩

theorem mem_externalPackages (hitem : item ∈ sources.externalPackageAnalyses) :
    ((item.managerId, item.packageName), item.externalPackageId) ∈ sources.externalPackages := by
  have hkey : (item.managerId, item.packageName) ∈ sources.externalPackages.map Prod.fst := by
    rw [externalPackages, mem_map_key_fill, List.map_map]
    exact List.mem_map.mpr ⟨item, hitem, rfl⟩
  obtain ⟨entry, hentry, hsame⟩ := List.mem_map.mp hkey
  obtain ⟨other, hother, rfl⟩ := exists_of_mem_externalPackages hentry
  have hparts := Prod.mk.inj hsame
  have hids : other.externalPackageId = item.externalPackageId := by
    rw [externalPackageId_eq hother, externalPackageId_eq hitem, hparts.1, hparts.2]
  rwa [hids, hparts.1, hparts.2] at hentry

theorem pairwise_externalPackages :
    sources.externalPackages.Pairwise fun left right => left.2 ≤ right.2 := by
  have hvalues : sources.externalPackages.map Prod.snd =
      (sources.externalPackages.map Prod.fst).map fun key =>
        goExternalPackageId key.1 key.2 := by
    rw [List.map_map]
    apply List.map_congr_left
    intro entry hentry
    obtain ⟨item, hitem, rfl⟩ := exists_of_mem_externalPackages hentry
    exact externalPackageId_eq hitem
  have hkeys := (map_key_fill_sublist Prod.fst (sources.externalPackageAnalyses.map fun item =>
    ((item.managerId, item.packageName), item.externalPackageId))).map fun key =>
      goExternalPackageId key.1 key.2
  have hids : ((sources.externalPackageAnalyses.map fun item =>
      ((item.managerId, item.packageName), item.externalPackageId)).map Prod.fst).map
        (fun key => goExternalPackageId key.1 key.2) =
      sources.externalPackageAnalyses.map GoExternalPackageAnalysis.externalPackageId := by
    rw [List.map_map, List.map_map]
    apply List.map_congr_left
    intro item hitem
    exact (externalPackageId_eq hitem).symm
  have hsorted : (sources.externalPackageAnalyses.map
      GoExternalPackageAnalysis.externalPackageId).Pairwise (· ≤ ·) :=
    List.pairwise_map.mpr (pairwise_sortedBy _ _)
  rw [hids] at hkeys
  have hdict := hsorted.sublist hkeys
  unfold externalPackages at hvalues
  rw [← hvalues, List.pairwise_map] at hdict
  exact hdict

/-! ## What an import is resolved to -/

/-- The longest module of the component's own build list which covers the import. -/
structure IsLongestOwn (sources : GoDependencySources) (component : GoImportingComponent)
    (importPath : String) (item : GoExternalPackageAnalysis) : Prop where
  mem : item ∈ sources.externalPackageAnalyses
  own : item.managerId = component.managerId
  covers : coversImport importPath item.packageName = true
  longest : ∀ other ∈ sources.externalPackageAnalyses, other.managerId = component.managerId →
    coversImport importPath other.packageName = true →
      other.packageName.toList.length ≤ item.packageName.toList.length

/-- The import has one edge, to the longest module of the component's own build list. -/
def ResolvesToLongest (sources : GoDependencySources) (component : GoImportingComponent)
    (importPath : String) : Prop :=
  ∃ item, sources.IsLongestOwn component importPath item ∧
    ∃ edge, sources.importEdges component importPath = .ok [edge] ∧
      edge.sourceComponentId = goComponentId component.importPath ∧
        edge.targetKind = .externalPackage ∧
          edge.targetId = goExternalPackageId component.managerId item.packageName

/-- No module which covers the import has a smaller id than the longest one of the component's
own build list. -/
def LongestFirst (sources : GoDependencySources) (component : GoImportingComponent)
    (importPath : String) : Prop :=
  ∃ item, sources.IsLongestOwn component importPath item ∧
    ∀ other ∈ sources.externalPackageAnalyses,
      coversImport importPath other.packageName = true →
        item.externalPackageId ≤ other.externalPackageId

theorem importEdges_external {component : GoImportingComponent} {importPath : String}
    {first : (String × String) × String} {entry : ProvenanceEntry}
    (hlocal : importPath ∉ sources.components.map fun component => component.importPath)
    (hfirst : sources.externalPackages.find? (fun entry => coversImport importPath entry.1.2) =
      some first)
    (hentry : derivedSummaryProvenance .dependencyGraph "derived from go package import graph"
      (component.directoryRelPath :: component.goFiles) (some "go list") = .ok entry) :
    sources.importEdges component importPath = .ok
      [⟨goComponentId component.importPath, first.2, .externalPackage, .declared, [entry]⟩] := by
  have hnone : leader? Prod.fst sources.localComponentIds importPath = none := by
    rw [leader?, List.find?_eq_none]
    intro found hfound hkey
    have hkeys : importPath ∈ sources.localComponentIds.map Prod.fst := by
      rw [← of_decide_eq_true hkey]
      exact List.mem_map_of_mem hfound
    rw [localComponentIds, mem_map_key_fill, List.map_map] at hkeys
    exact hlocal hkeys
  simp only [importEdges, hnone, hfirst, importEdge, hentry, ok_bind]
  rfl

theorem exists_importEvidence {component : GoImportingComponent} {node : Component}
    (hnode : toGoComponent component.toGoPackageAnalysis = .ok node) :
    ∃ entry, derivedSummaryProvenance .dependencyGraph "derived from go package import graph"
      (component.directoryRelPath :: component.goFiles) (some "go list") = .ok entry := by
  obtain ⟨entry, hentry, -⟩ := bind_eq_ok.mp hnode
  obtain ⟨-, -, stored, hstored, -⟩ := ProvenanceEntry.create_eq_ok.mp hentry
  exact ⟨_, ProvenanceEntry.create_eq_ok.mpr ⟨by decide, by decide, stored, hstored, rfl⟩⟩

theorem exists_first {importPath : String} (hitem : item ∈ sources.externalPackageAnalyses)
    (hcovers : coversImport importPath item.packageName = true) :
    ∃ first, sources.externalPackages.find? (fun entry => coversImport importPath entry.1.2) =
        some first ∧
      (∃ item ∈ sources.externalPackageAnalyses,
        coversImport importPath item.packageName = true ∧ item.externalPackageId = first.2) ∧
      ∀ other ∈ sources.externalPackageAnalyses,
        coversImport importPath other.packageName = true →
          first.2 ≤ other.externalPackageId := by
  have hsome : (sources.externalPackages.find?
      fun entry => coversImport importPath entry.1.2).isSome := by
    rw [List.find?_isSome]
    exact ⟨_, mem_externalPackages hitem, hcovers⟩
  obtain ⟨first, hfirst⟩ := Option.isSome_iff_exists.mp hsome
  obtain ⟨chosen, hchosen, hentry⟩ :=
    exists_of_mem_externalPackages (List.mem_of_find?_eq_some hfirst)
  have hcovered := List.find?_some hfirst
  rw [hentry] at hcovered
  refine ⟨first, hfirst, ⟨chosen, hchosen, hcovered, by rw [hentry]⟩, ?_⟩
  intro other hother hother'
  exact key_le_of_find? pairwise_externalPackages hfirst (mem_externalPackages hother) hother'

/-- An import which a module of the component's own build list covers is resolved to the
longest one exactly where no covering module has a smaller id. -/
theorem resolvesToLongest_iff {component : GoImportingComponent} {importPath : String}
    {node : Component} (hnode : toGoComponent component.toGoPackageAnalysis = .ok node)
    (hlocal : importPath ∉ sources.components.map fun component => component.importPath)
    (hcovered : ∃ item ∈ sources.externalPackageAnalyses,
      item.managerId = component.managerId ∧ coversImport importPath item.packageName = true) :
    sources.ResolvesToLongest component importPath ↔
      sources.LongestFirst component importPath := by
  obtain ⟨own, hown, -, hcovers⟩ := hcovered
  obtain ⟨entry, hentry⟩ := exists_importEvidence hnode
  obtain ⟨first, hfirst, hchosen, hleast⟩ := exists_first hown hcovers
  have hedges := importEdges_external hlocal hfirst hentry
  have hid : ∀ item, sources.IsLongestOwn component importPath item →
      item.externalPackageId = goExternalPackageId component.managerId item.packageName := by
    intro item hitem
    rw [externalPackageId_eq hitem.mem, hitem.own]
  constructor
  · intro hresolves
    obtain ⟨item, hitem, edge, hedge, -, -, htarget⟩ := hresolves
    rw [hedges, Except.ok.injEq, List.cons.injEq] at hedge
    rw [← hedge.1] at htarget
    refine ⟨item, hitem, ?_⟩
    rw [hid item hitem, ← htarget]
    exact hleast
  · intro hleastOwn
    obtain ⟨item, hitem, hle⟩ := hleastOwn
    obtain ⟨chosen, hmem, hchosenCovers, hchosenId⟩ := hchosen
    have hsame : first.2 = item.externalPackageId := by
      apply le_antisymm
      · exact hleast item hitem.mem hitem.covers
      · rw [← hchosenId]
        exact hle chosen hmem hchosenCovers
    refine ⟨item, hitem, _, hedges, rfl, rfl, ?_⟩
    rw [← hid item hitem]
    exact hsame

end GoDependencySources

/-! ## Modules which are tried too early -/

namespace GoSample

def component (imports : List String) : GoImportingComponent :=
  { importPath := "example.com/app"
    packageName := "app"
    directoryRelPath := "app"
    componentKind := .package
    sourceRoots := ["app"]
    artifactPaths := ["app/app.go"]
    goFiles := ["app/app.go"]
    testFiles := []
    moduleRootRelPath := ""
    imports := imports }

def sources (paths : List String) (imports : List String) : GoDependencySources :=
  { attachmentRootRelPath := "."
    listings := [{ moduleRootRelPath := "", listed := paths.map fun path => { path := some path } }]
    components := [component imports] }

def nested : GoDependencySources :=
  sources ["golang.org/x", "golang.org/x/net"] ["golang.org/x/net/html"]

end GoSample

/-- The characterization at an import of the only module of a build list. -/
theorem resolvesToLongest_iff_single :
    (GoSample.sources ["golang.org/x/net"] ["golang.org/x/net/html"]).ResolvesToLongest
        (GoSample.component ["golang.org/x/net/html"]) "golang.org/x/net/html" ↔
      (GoSample.sources ["golang.org/x/net"] ["golang.org/x/net/html"]).LongestFirst
        (GoSample.component ["golang.org/x/net/html"]) "golang.org/x/net/html" := by
  have hnode : ∃ node, toGoComponent
      (GoSample.component ["golang.org/x/net/html"]).toGoPackageAnalysis = .ok node :=
    ⟨_, rfl⟩
  obtain ⟨node, hnode⟩ := hnode
  exact GoDependencySources.resolvesToLongest_iff hnode (by decide) (by decide)

/-- A module inside another module is never tried. -/
theorem not_always_resolvesToLongest :
    ¬ ∀ (sources : GoDependencySources) (component : GoImportingComponent)
      (importPath : String) (node : Component), component ∈ sources.components →
        importPath ∈ component.imports →
          toGoComponent component.toGoPackageAnalysis = .ok node →
            (importPath ∉ sources.components.map fun component => component.importPath) →
              (∃ item ∈ sources.externalPackageAnalyses,
                item.managerId = component.managerId ∧
                  coversImport importPath item.packageName = true) →
                sources.ResolvesToLongest component importPath := by
  intro halways
  have hnode : ∃ node, toGoComponent
      (GoSample.component ["golang.org/x/net/html"]).toGoPackageAnalysis = .ok node :=
    ⟨_, rfl⟩
  obtain ⟨node, hnode⟩ := hnode
  obtain ⟨item, hitem, edge, hedge, -, -, htarget⟩ := halways GoSample.nested
    (GoSample.component ["golang.org/x/net/html"]) "golang.org/x/net/html" node
      (List.mem_singleton_self _) (List.mem_singleton_self _) hnode (by decide +kernel)
        (by decide +kernel)
  have htaken : (GoSample.nested.importEdges (GoSample.component ["golang.org/x/net/html"])
      "golang.org/x/net/html").map (List.map ComponentDependencyEdge.targetId) =
        .ok ["pkgext:go:pkgmgr/go/root:golang.org/x"] := by
    decide +kernel
  have hlonger : ∃ other ∈ GoSample.nested.externalPackageAnalyses,
      other.managerId = (GoSample.component ["golang.org/x/net/html"]).managerId ∧
        coversImport "golang.org/x/net/html" other.packageName = true ∧
          other.packageName = "golang.org/x/net" := by
    decide +kernel
  obtain ⟨other, hother, hown, hcovers, hname⟩ := hlonger
  have hlength := hitem.longest other hother hown hcovers
  rw [hedge] at htaken
  have hid : edge.targetId = "pkgext:go:pkgmgr/go/root:golang.org/x" := by
    simpa [Except.map] using htaken
  rw [htarget] at hid
  have hshorter : ∀ item ∈ GoSample.nested.externalPackageAnalyses,
      goExternalPackageId (GoSample.component ["golang.org/x/net/html"]).managerId
          item.packageName = "pkgext:go:pkgmgr/go/root:golang.org/x" →
        item.packageName.toList.length < "golang.org/x/net".toList.length := by
    decide +kernel
  rw [hname] at hlength
  exact Nat.not_le_of_lt (hshorter item hitem.mem hid) hlength

end SuitCode
