import SuitCode.EvidencePaths
import SuitCode.NpmProvider
import SuitCode.Repository

/-!
# Dependency edges of npm components

A component has an edge for every name in every scope of its manifest.  The
name leads to a component of the workspace or to an external package.  External
are the names of no package of the workspace, so a declared aggregator is
neither, and the edges of the whole workspace are lost with it.
-/

namespace SuitCode

open PosixText KeyedList ExceptList

/-! ## The edges -/

def scopedDependencies (dependencies : PackageJsonDependencySet) :
    List (DependencyScope × TextMap) :=
  [(.runtime, dependencies.dependencies), (.dev, dependencies.devDependencies),
    (.peer, dependencies.peerDependencies), (.optional, dependencies.optionalDependencies)]

structure DeclaredDependency where
  sourceComponentId : String
  dependencyScope : DependencyScope
  dependencyName : String
  manifestPath : String
  deriving DecidableEq, Repr

def declaredDependencies (component : String × NpmPackageAnalysis) :
    List DeclaredDependency :=
  (scopedDependencies component.2.dependencies).flatMap fun entry =>
    (sortedBy id entry.2.names).map fun name =>
      ⟨component.1, entry.1, name, component.2.manifestPath⟩

/-- `ComponentIndexBuilder.build`, with the ids already indexed. -/
def indexNpmComponents :
    List String → List NpmPackageAnalysis → PyResult (List (String × NpmPackageAnalysis))
  | _, [] => .ok []
  | seen, analysis :: analyses => do
      let component ← toComponent analysis
      if component.id ∈ seen then
        raiseValueError ("duplicate npm component id detected: `" ++ component.id ++ "`")
      else do
        let index ← indexNpmComponents (component.id :: seen) analyses
        pure ((component.id, analysis) :: index)

/-- `ComponentDependencyEdge(...)`. -/
def dependencyEdge (declared : DeclaredDependency) (targetKind : DependencyTargetKind)
    (targetId : String) : PyResult ComponentDependencyEdge := do
  let entry ← ProvenanceEntry.create .authoritative .manifest none
    "derived from workspace package.json dependency metadata" [declared.manifestPath]
  validated
    [(isBlank declared.sourceComponentId, "source_component_id must not be empty"),
      (isBlank targetId, "target_id must not be empty")]
    { sourceComponentId := declared.sourceComponentId
      targetId := targetId
      targetKind := targetKind
      dependencyScope := declared.dependencyScope
      provenance := [entry] }

def idUnder (ids : List (String × String)) (name : String) : Option String :=
  (leader? Prod.fst ids name).map Prod.snd

def resolveDependency (localComponents externalPackages : List (String × String))
    (declared : DeclaredDependency) : PyResult ComponentDependencyEdge :=
  match idUnder localComponents declared.dependencyName with
  | some targetId => dependencyEdge declared .component targetId
  | none =>
      match idUnder externalPackages declared.dependencyName with
      | some targetId => dependencyEdge declared .externalPackage targetId
      | none =>
          raiseValueError
            ("workspace dependency `" ++ declared.dependencyName ++
              "` could not be resolved for component `" ++ declared.sourceComponentId ++ "`")

namespace NpmAttachment

def externalPackageIds (npm : NpmAttachment) : PyResult (List (String × String)) := do
  let analyses ← npm.externalPackageAnalyses
  analyses.mapM fun analysis => do
    let package ← toExternalPackage analysis
    pure (analysis.packageName, package.id)

def allComponentDependencyEdges (npm : NpmAttachment) :
    PyResult (List ComponentDependencyEdge) := do
  let analyses ← npm.componentAnalyses
  let index ← indexNpmComponents [] analyses
  let externalPackages ← npm.externalPackageIds
  let localComponents := index.map fun component => (component.2.packageName, component.1)
  let edges ← (index.flatMap declaredDependencies).mapM
    (resolveDependency localComponents externalPackages)
  pure (sortedBy Repository.dependencyEdgeSortKey edges)

end NpmAttachment

/-! ## What the edges are asked for -/

namespace PackageJsonWorkspace

def componentSegments : List String :=
  [".", "tools", "apps", "services", "packages", "libs", "modules"]

/-- The package lies in a directory of the given ones. -/
def LiesIn (workspace : PackageJsonWorkspace) (directories : List String)
    (package : PackageJsonWorkspacePackage) : Prop :=
  ∃ relative, workspace.repositoryRelPath package = .ok relative ∧
    rootSegment relative ∈ directories

/-- Named apart, and at the root or in the supported directories. -/
structure Supported (workspace : PackageJsonWorkspace) : Prop where
  named : ∀ package ∈ workspace.packages, ∃ name, package.manifest.name = some name
  names_nodup : (workspace.packages.map fun package => package.manifest.name).Nodup
  located : ∀ package ∈ workspace.packages,
    workspace.LiesIn ("aggregators" :: componentSegments) package

def DeclaresAggregator (workspace : PackageJsonWorkspace) : Prop :=
  ∃ package ∈ workspace.packages, ∃ aggregator ∈ workspace.packages, ∃ name,
    workspace.LiesIn componentSegments package ∧
      workspace.LiesIn ["aggregators"] aggregator ∧
        aggregator.manifest.name = some name ∧
          name ∈ package.manifest.dependencies.allDependencyNames

end PackageJsonWorkspace

namespace NpmAttachment

def ReportsNode (npm : NpmAttachment) (name targetId : String) : Prop :=
  (∃ packages, npm.getExternalPackages = .ok packages ∧
      ∃ package ∈ packages, package.name = name ∧ package.id = targetId) ∨
    ∃ aggregators, npm.getAggregators = .ok aggregators ∧
      ∃ aggregator ∈ aggregators, aggregator.name = name ∧ aggregator.id = targetId

structure EdgeOf (npm : NpmAttachment) (components : List Component)
    (declared : DeclaredDependency) (edge : ComponentDependencyEdge) : Prop where
  source_eq : edge.sourceComponentId = declared.sourceComponentId
  scope_eq : edge.dependencyScope = declared.dependencyScope
  ofComponent : ∀ component ∈ components, component.name = declared.dependencyName →
    edge.targetId = component.id
  ofOther : (∀ component ∈ components, component.name ≠ declared.dependencyName) →
    npm.ReportsNode declared.dependencyName edge.targetId

/-- One edge for each component, scope and declared name. -/
def EdgesTotalAndExact (npm : NpmAttachment) : Prop :=
  ∃ edges analyses components,
    npm.allComponentDependencyEdges = .ok edges ∧
      npm.componentAnalyses = .ok analyses ∧
        npm.getComponents = .ok components ∧
          ∃ arranged, arranged.Perm edges ∧
            List.Forall₂ (npm.EdgeOf components)
              (analyses.flatMap fun analysis =>
                declaredDependencies (npmComponentId analysis.packageName, analysis))
              arranged

/-- The provider lists its components and its external packages, and no component
declares an aggregator. -/
structure DependenciesResolvable (npm : NpmAttachment) : Prop where
  components : ∃ components, npm.getComponents = .ok components
  packages : ∃ packages, npm.getExternalPackages = .ok packages
  noAggregator : ¬ npm.workspace.DeclaresAggregator

end NpmAttachment

variable {analysis : NpmPackageAnalysis} {names : List String} {workspace : PackageJsonWorkspace}
  {analyses : List NpmPackageAnalysis} {npm : NpmAttachment} {components : List Component}

/-! ## Components and packages -/

theorem toComponent_eq_ok {component : Component} (hok : toComponent analysis = .ok component) :
    component.id = npmComponentId analysis.packageName ∧
      component.name = analysis.packageName := by
  simp only [toComponent, bind_eq_ok, pure_eq_ok] at hok
  obtain ⟨entry, -, rfl⟩ := hok
  exact ⟨rfl, rfl⟩

theorem npmComponentId_injective : Function.Injective npmComponentId := by
  intro left right heq
  simpa [npmComponentId] using heq

structure ComponentOf (workspace : PackageJsonWorkspace)
    (package : PackageJsonWorkspacePackage) (analysis : NpmPackageAnalysis) : Prop where
  located : workspace.LiesIn PackageJsonWorkspace.componentSegments package
  name_eq : package.manifest.name = some analysis.packageName
  dependencies_eq : analysis.dependencies = package.manifest.dependencies

theorem buildPackageAnalysis_keeps {tree : FileTree} {package : PackageJsonWorkspacePackage}
    (hok : buildPackageAnalysis tree workspace names package = .ok analysis) :
    package.manifest.name = some analysis.packageName ∧
      analysis.dependencies = package.manifest.dependencies := by
  simp only [buildPackageAnalysis, bind_eq_ok, pure_eq_ok] at hok
  obtain ⟨name, hname, -, -, -, -, -, -, -, -, -, -, -, -, rfl⟩ := hok
  unfold PackageJsonWorkspace.packageName at hname
  cases hmanifest : package.manifest.name with
  | none => simp [hmanifest] at hname
  | some found =>
      have heq : found = name := by simpa [hmanifest] using hname
      exact ⟨by rw [heq], rfl⟩

theorem classify_eq_ok {packageDir : List String} {segment : String} {role : NpmPackageRole}
    (hok : classify packageDir segment = .ok role) :
    (role = .aggregator ∧ segment = "aggregators") ∨
      (role = .component ∧ segment ∈ PackageJsonWorkspace.componentSegments) := by
  unfold classify at hok
  by_cases haggregator : segment = "aggregators"
  · rw [if_pos haggregator, Except.ok.injEq] at hok
    exact .inl ⟨hok.symm, haggregator⟩
  · rw [if_neg haggregator] at hok
    split at hok
    · rename_i hmem
      rw [Except.ok.injEq] at hok
      exact .inr ⟨hok.symm, hmem⟩
    · simp [unsupportedLocation] at hok

theorem analyzePackage_eq_ok {tree : FileTree} {package : PackageJsonWorkspacePackage}
    {found : Option NpmPackageAnalysis}
    (hok : analyzePackage tree workspace names package = .ok found) :
    (found = none ∧ workspace.LiesIn ["aggregators"] package) ∨
      ∃ analysis, found = some analysis ∧ ComponentOf workspace package analysis := by
  unfold analyzePackage at hok
  obtain ⟨relative, hrelative, hok⟩ := bind_eq_ok.mp hok
  obtain ⟨role, hrole, hok⟩ := bind_eq_ok.mp hok
  rcases classify_eq_ok hrole with ⟨rfl, hsegment⟩ | ⟨rfl, hsegment⟩
  · exact .inl ⟨(pure_eq_ok.mp hok).symm, relative, hrelative, by simp [hsegment]⟩
  · simp only [bind_eq_ok, pure_eq_ok] at hok
    obtain ⟨analysis, hanalysis, rfl⟩ := hok
    have hkeeps := buildPackageAnalysis_keeps hanalysis
    exact .inr ⟨analysis, rfl, ⟨relative, hrelative, hsegment⟩, hkeeps.1, hkeeps.2⟩

theorem LiesIn.not_both {package : PackageJsonWorkspacePackage}
    (hcomponent : workspace.LiesIn PackageJsonWorkspace.componentSegments package)
    (haggregator : workspace.LiesIn ["aggregators"] package) : False := by
  obtain ⟨relative, hrelative, hsegment⟩ := hcomponent
  obtain ⟨other, hother, haggregator⟩ := haggregator
  have heq : relative = other := by
    rw [hrelative] at hother
    simpa using hother
  subst heq
  have hname : rootSegment relative = "aggregators" := by simpa using haggregator
  rw [hname] at hsegment
  simp [PackageJsonWorkspace.componentSegments] at hsegment

structure ComponentAnalyses (npm : NpmAttachment) (analyses : List NpmPackageAnalysis) :
    Prop where
  sound : ∀ analysis ∈ analyses, ∃ package ∈ npm.workspace.packages,
    ComponentOf npm.workspace package analysis
  complete : ∀ package ∈ npm.workspace.packages,
    npm.workspace.LiesIn PackageJsonWorkspace.componentSegments package →
      ∃ analysis ∈ analyses, ComponentOf npm.workspace package analysis
  names_sublist : ((analyses.map fun analysis => some analysis.packageName)).Subperm
    (npm.workspace.packages.map fun package => package.manifest.name)

@[simp] theorem rebaseComponent_packageName (rootRelPath : String)
    (analysis : NpmPackageAnalysis) :
    (rebaseComponent rootRelPath analysis).packageName = analysis.packageName := by
  unfold rebaseComponent
  rfl

@[simp] theorem rebaseComponent_dependencies (rootRelPath : String)
    (analysis : NpmPackageAnalysis) :
    (rebaseComponent rootRelPath analysis).dependencies = analysis.dependencies := by
  unfold rebaseComponent
  rfl

theorem ComponentOf.rebase {package : PackageJsonWorkspacePackage}
    (hof : ComponentOf workspace package analysis) (rootRelPath : String) :
    ComponentOf workspace package (rebaseComponent rootRelPath analysis) := by
  constructor
  case located => exact hof.located
  case name_eq => rw [rebaseComponent_packageName, hof.name_eq]
  case dependencies_eq => rw [rebaseComponent_dependencies, hof.dependencies_eq]

theorem names_sublist_of_analyses {tree : FileTree} {packages : List PackageJsonWorkspacePackage}
    {found : List (Option NpmPackageAnalysis)}
    (hall : List.Forall₂
      (fun package output => analyzePackage tree workspace names package = .ok output)
      packages found) :
    ((found.filterMap id).map fun analysis => some analysis.packageName).Sublist
      (packages.map fun package => package.manifest.name) := by
  induction hall with
  | nil => exact .slnil
  | cons hhead _ ih =>
      rcases analyzePackage_eq_ok hhead with ⟨rfl, -⟩ | ⟨analysis, rfl, hof⟩
      · exact ih.cons _
      · rw [List.map_cons, hof.name_eq]
        exact ih.cons_cons _

theorem NpmAttachment.componentAnalyses_eq_ok (hok : npm.componentAnalyses = .ok analyses) :
    ComponentAnalyses npm analyses := by
  simp only [NpmAttachment.componentAnalyses, analyzeComponents, bind_eq_ok,
    pure_eq_ok] at hok
  obtain ⟨sorted, ⟨names, -, found, hfound, rfl⟩, rfl⟩ := hok
  constructor
  case sound =>
    intro analysis hanalysis
    simp only [List.mem_map, mem_sortedBy, List.mem_filterMap, id_eq] at hanalysis
    obtain ⟨origin, ⟨output, houtput, rfl⟩, rfl⟩ := hanalysis
    obtain ⟨package, hpackage, hrun⟩ := exists_input_of_mem hfound houtput
    rcases analyzePackage_eq_ok hrun with ⟨hnone, -⟩ | ⟨other, hsome, hof⟩
    · cases hnone
    · cases hsome
      exact ⟨package, hpackage, hof.rebase npm.rootRelPath⟩
  case complete =>
    intro package hpackage hlocated
    obtain ⟨output, houtput, hrun⟩ := exists_output_of_mem hfound hpackage
    rcases analyzePackage_eq_ok hrun with ⟨-, haggregator⟩ | ⟨analysis, rfl, hof⟩
    · exact (LiesIn.not_both hlocated haggregator).elim
    · use rebaseComponent npm.rootRelPath analysis
      constructor
      · simp only [List.mem_map, mem_sortedBy, List.mem_filterMap, id_eq]
        exact ⟨analysis, ⟨some analysis, houtput, rfl⟩, rfl⟩
      · exact hof.rebase npm.rootRelPath
  case names_sublist =>
    have hsublist := names_sublist_of_analyses (mapM_eq_ok_iff.mp hfound)
    have hperm := (sortedBy_perm NpmPackageAnalysis.packageName (found.filterMap id)).map
      fun analysis => some analysis.packageName
    simp only [List.map_map, Function.comp_def, rebaseComponent_packageName]
    exact hperm.subperm.trans hsublist.subperm

/-! ## External packages -/

theorem mem_packageNames_iff {name : String} (hok : workspace.packageNames = .ok names) :
    name ∈ names ↔ ∃ package ∈ workspace.packages, package.manifest.name = some name := by
  have hname : ∀ package found, PackageJsonWorkspace.packageName package = .ok found ↔
      package.manifest.name = some found := by
    intro package found
    unfold PackageJsonWorkspace.packageName
    cases package.manifest.name with
    | none => simp
    | some manifestName => simp
  unfold PackageJsonWorkspace.packageNames at hok
  constructor
  · intro hmem
    obtain ⟨package, hpackage, hfound⟩ := exists_input_of_mem hok hmem
    exact ⟨package, hpackage, (hname package name).mp hfound⟩
  · rintro ⟨package, hpackage, hmanifest⟩
    obtain ⟨found, hfound, hrun⟩ := exists_output_of_mem hok hpackage
    have heq := (hname package found).mp hrun
    rw [hmanifest, Option.some.injEq] at heq
    rwa [heq]

theorem map_packageName_externalDeclarations {manifest : PackageJsonManifest × String}
    {declarations : List ExternalDeclaration}
    (hok : externalDeclarations names manifest = .ok declarations) :
    declarations.map ExternalDeclaration.packageName =
      manifest.1.dependencies.allDependencyNames.filter fun name => name ∉ names := by
  unfold externalDeclarations at hok
  have hmap := map_outputs_eq ExternalDeclaration.packageName id hok (by
    intro name _ declaration hrun
    cases hversion : manifest.1.dependencies.versionFor name with
    | none => simp [hversion] at hrun
    | some versionSpec =>
        have heq : ⟨name, versionSpec, manifest.2⟩ = declaration := by
          simpa [hversion] using hrun
        rw [← heq]
        rfl)
  rw [hmap, List.map_id]

structure ExternalAnalyses (npm : NpmAttachment) (analyses : List NpmExternalPackageAnalysis) :
    Prop where
  sound : ∀ analysis ∈ analyses, ∀ package ∈ npm.workspace.packages,
    package.manifest.name ≠ some analysis.packageName
  complete : ∀ package ∈ npm.workspace.packages,
    ∀ name ∈ package.manifest.dependencies.allDependencyNames,
      (∀ other ∈ npm.workspace.packages, other.manifest.name ≠ some name) →
        ∃ analysis ∈ analyses, analysis.packageName = name

theorem NpmAttachment.externalPackageAnalyses_eq_ok {analyses : List NpmExternalPackageAnalysis}
    (hok : npm.externalPackageAnalyses = .ok analyses) : ExternalAnalyses npm analyses := by
  simp only [NpmAttachment.externalPackageAnalyses, analyzeExternalPackages, bind_eq_ok,
    pure_eq_ok] at hok
  obtain ⟨found, ⟨names, hnames, paths, hpaths, declarations, hdeclarations, rfl⟩, rfl⟩ := hok
  have hname : ∀ declared, declared ∈ declarations.flatten.map ExternalDeclaration.packageName ↔
      ∃ analysis ∈ ((sortedBy ExternalDeclaration.packageName
        (dedupeBy ExternalDeclaration.packageName declarations.flatten)).map
          (externalPackageOf declarations.flatten)).map (rebaseExternalPackage npm.rootRelPath),
        analysis.packageName = declared := by
    intro declared
    rw [← mem_map_dedupeBy_iff]
    simp [externalPackageOf, rebaseExternalPackage]
  constructor
  case sound =>
    intro analysis hanalysis package hpackage heq
    have hdeclared := (hname analysis.packageName).mpr ⟨analysis, hanalysis, rfl⟩
    rw [List.map_flatten, List.mem_flatten] at hdeclared
    obtain ⟨group, hgroup, hmem⟩ := hdeclared
    obtain ⟨output, houtput, rfl⟩ := List.mem_map.mp hgroup
    obtain ⟨manifest, -, hrun⟩ := exists_input_of_mem hdeclarations houtput
    rw [map_packageName_externalDeclarations hrun, List.mem_filter] at hmem
    have hlocal := (mem_packageNames_iff hnames).mpr ⟨package, hpackage, heq⟩
    simp [hlocal] at hmem
  case complete =>
    intro package hpackage name hname' hforeign
    obtain ⟨manifest, hmanifest, hrun⟩ := exists_output_of_mem hpaths hpackage
    simp only [bind_eq_ok, pure_eq_ok] at hrun
    obtain ⟨path, -, rfl⟩ := hrun
    obtain ⟨output, houtput, hrun⟩ :=
      exists_output_of_mem hdeclarations (List.mem_cons_of_mem _ hmanifest)
    have hmem : name ∈ output.map ExternalDeclaration.packageName := by
      rw [map_packageName_externalDeclarations hrun, List.mem_filter]
      refine ⟨hname', ?_⟩
      simp only [decide_eq_true_eq, mem_packageNames_iff hnames]
      rintro ⟨other, hother, heq⟩
      exact hforeign other hother heq
    apply (hname name).mp
    rw [List.map_flatten, List.mem_flatten]
    exact ⟨_, List.mem_map_of_mem houtput, hmem⟩

/-! ## The edges of the components -/

def indexedComponent (analysis : NpmPackageAnalysis) : String × NpmPackageAnalysis :=
  (npmComponentId analysis.packageName, analysis)

theorem indexNpmComponents_eq_ok {seen : List String} {index : List (String × NpmPackageAnalysis)}
    (hok : indexNpmComponents seen analyses = .ok index) :
    index = analyses.map indexedComponent ∧
      ∃ components, analyses.mapM toComponent = .ok components := by
  induction analyses generalizing seen index with
  | nil =>
      have heq : [] = index := by simpa [indexNpmComponents] using hok
      exact ⟨heq.symm, [], rfl⟩
  | cons analysis analyses ih =>
      unfold indexNpmComponents at hok
      obtain ⟨component, hcomponent, hok⟩ := bind_eq_ok.mp hok
      by_cases hseen : component.id ∈ seen
      · simp [hseen] at hok
      · rw [if_neg hseen] at hok
        simp only [bind_eq_ok, pure_eq_ok] at hok
        obtain ⟨rest, hrest, rfl⟩ := hok
        obtain ⟨heq, components, hcomponents⟩ := ih hrest
        constructor
        · rw [heq, List.map_cons, (toComponent_eq_ok hcomponent).1]
          rfl
        · use component :: components
          simp only [List.mapM_cons, bind_eq_ok, pure_eq_ok]
          exact ⟨component, hcomponent, components, hcomponents, rfl⟩

theorem indexNpmComponents_of_nodup {seen : List String}
    (hok : analyses.mapM toComponent = .ok components)
    (hdistinct : (analyses.map NpmPackageAnalysis.packageName).Nodup)
    (hfresh : ∀ analysis ∈ analyses, npmComponentId analysis.packageName ∉ seen) :
    indexNpmComponents seen analyses = .ok (analyses.map indexedComponent) := by
  induction analyses generalizing seen components with
  | nil => rfl
  | cons analysis analyses ih =>
      simp only [List.mapM_cons, bind_eq_ok, pure_eq_ok] at hok
      obtain ⟨component, hcomponent, rest, hrest, -⟩ := hok
      rw [List.map_cons, List.nodup_cons] at hdistinct
      have hid := (toComponent_eq_ok hcomponent).1
      have hlater : ∀ later ∈ analyses,
          npmComponentId later.packageName ∉ component.id :: seen := by
        intro later hmem hin
        rcases List.mem_cons.mp hin with heq | hin
        · rw [hid] at heq
          apply hdistinct.1
          rw [← npmComponentId_injective heq]
          exact List.mem_map_of_mem hmem
        · exact hfresh later (List.mem_cons_of_mem _ hmem) hin
      have hhead : component.id ∉ seen := by
        rw [hid]
        exact hfresh analysis List.mem_cons_self
      simp only [indexNpmComponents, hcomponent, ok_bind, if_neg hhead,
        ih hrest hdistinct.2 hlater]
      rw [List.map_cons, indexedComponent, hid]
      rfl

theorem NpmAttachment.externalPackageIds_eq_ok {ids : List (String × String)} :
    npm.externalPackageIds = .ok ids ↔
      ∃ analyses packages, npm.externalPackageAnalyses = .ok analyses ∧
        analyses.mapM toExternalPackage = .ok packages ∧
          ids = analyses.map fun analysis =>
            (analysis.packageName, npmExternalId analysis.packageName) := by
  have hstep : ∀ analysis package, toExternalPackage analysis = .ok package →
      package.id = npmExternalId analysis.packageName := by
    intro analysis package hok
    simp only [toExternalPackage, bind_eq_ok, pure_eq_ok] at hok
    obtain ⟨entry, -, rfl⟩ := hok
    rfl
  simp only [NpmAttachment.externalPackageIds, bind_eq_ok]
  constructor
  · rintro ⟨analyses, hanalyses, hids⟩
    have hall : ∃ packages, analyses.mapM toExternalPackage = .ok packages ∧
        List.Forall₂ (fun _ _ => True) analyses packages := by
      apply exists_outputs
      intro analysis hmem
      obtain ⟨output, -, hrun⟩ := exists_output_of_mem hids hmem
      simp only [bind_eq_ok, pure_eq_ok] at hrun
      obtain ⟨package, hpackage, -⟩ := hrun
      exact ⟨package, hpackage, trivial⟩
    obtain ⟨packages, hpackages, -⟩ := hall
    refine ⟨analyses, packages, hanalyses, hpackages, ?_⟩
    have hmap := map_outputs_eq id
      (fun analysis : NpmExternalPackageAnalysis =>
        (analysis.packageName, npmExternalId analysis.packageName)) hids (by
        intro analysis _ output hrun
        simp only [bind_eq_ok, pure_eq_ok] at hrun
        obtain ⟨package, hpackage, rfl⟩ := hrun
        rw [id_eq, hstep analysis package hpackage])
    rwa [List.map_id] at hmap
  · rintro ⟨analyses, packages, hanalyses, hpackages, rfl⟩
    refine ⟨analyses, hanalyses, ?_⟩
    have hrun := mapM_records
      (fun analysis => do
        let package ← toExternalPackage analysis
        pure (analysis.packageName, package.id))
      id (fun analysis : NpmExternalPackageAnalysis =>
        (analysis.packageName, npmExternalId analysis.packageName)) analyses (by
        intro analysis hmem
        obtain ⟨package, -, hpackage⟩ := exists_output_of_mem hpackages hmem
        simp only [id_eq, hpackage, ok_bind, hstep analysis package hpackage]
        rfl)
    rwa [List.map_id] at hrun

theorem isBlank_append_eq_false {start text : String} (hstart : isBlank start = false) :
    isBlank (start ++ text) = false := by
  unfold isBlank at hstart ⊢
  rw [String.toList_append, List.all_append, hstart, Bool.false_and]

theorem exists_dependencyEdge {component : Component} {targetId : String}
    (hcomponent : toComponent analysis = .ok component) (htarget : isBlank targetId = false)
    (targetKind : DependencyTargetKind) (scope : DependencyScope) (name : String) :
    ∃ edge, dependencyEdge
        ⟨npmComponentId analysis.packageName, scope, name, analysis.manifestPath⟩
          targetKind targetId = .ok edge ∧
      edge.sourceComponentId = npmComponentId analysis.packageName ∧
        edge.dependencyScope = scope ∧ edge.targetId = targetId := by
  simp only [toComponent, bind_eq_ok] at hcomponent
  obtain ⟨entry, hentry, -⟩ := hcomponent
  obtain ⟨-, -, stored, hstored, -⟩ := ProvenanceEntry.create_eq_ok.mp hentry
  have hsource : isBlank (npmComponentId analysis.packageName) = false :=
    isBlank_append_eq_false (by decide)
  unfold dependencyEdge
  simp only [bind_eq_ok, validated_eq_ok]
  refine ⟨_, ⟨_, ProvenanceEntry.create_eq_ok.mpr ⟨rfl, by decide, stored, hstored, rfl⟩,
    rfl, ?_⟩, rfl, rfl, rfl⟩
  simp [hsource, htarget]

theorem idUnder_map_eq_some
    {α : Type} {items : List α} {name target : α → String} {wanted targetId : String}
    (hfound : idUnder (items.map fun item => (name item, target item)) wanted =
      some targetId) :
    ∃ item ∈ items, name item = wanted ∧ target item = targetId := by
  unfold idUnder at hfound
  obtain ⟨entry, hentry, rfl⟩ := Option.map_eq_some_iff.mp hfound
  obtain ⟨item, hitem, rfl⟩ := List.mem_map.mp (leader?_mem hentry)
  have hkey : (name item, target item).1 = wanted := leader?_key hentry
  exact ⟨item, hitem, hkey, rfl⟩

theorem idUnder_map_eq_none
    {α : Type} {items : List α} {name target : α → String} {wanted : String} :
    idUnder (items.map fun item => (name item, target item)) wanted = none ↔
      ∀ item ∈ items, name item ≠ wanted := by
  simp [idUnder, leader?]

/-! ## When the edges are total -/

namespace NpmAttachment

theorem getComponents_eq_ok :
    npm.getComponents = .ok components ↔
      ∃ analyses found, npm.componentAnalyses = .ok analyses ∧
        analyses.mapM toComponent = .ok found ∧ components = sortedBy Component.id found := by
  simp only [getComponents, bind_eq_ok, pure_eq_ok]
  constructor
  · rintro ⟨analyses, hanalyses, found, hfound, heq⟩
    exact ⟨analyses, found, hanalyses, hfound, heq.symm⟩
  · rintro ⟨analyses, found, hanalyses, hfound, heq⟩
    exact ⟨analyses, hanalyses, found, hfound, heq.symm⟩

theorem getExternalPackages_eq_ok {packages : List ExternalPackage} :
    npm.getExternalPackages = .ok packages ↔
      ∃ analyses found, npm.externalPackageAnalyses = .ok analyses ∧
        analyses.mapM toExternalPackage = .ok found ∧
          packages = sortedBy ExternalPackage.id found := by
  simp only [getExternalPackages, bind_eq_ok, pure_eq_ok]
  constructor
  · rintro ⟨analyses, hanalyses, found, hfound, heq⟩
    exact ⟨analyses, found, hanalyses, hfound, heq.symm⟩
  · rintro ⟨analyses, found, hanalyses, hfound, heq⟩
    exact ⟨analyses, hanalyses, found, hfound, heq.symm⟩

structure EdgeInputs (npm : NpmAttachment) (analyses : List NpmPackageAnalysis)
    (components : List Component) (packages : List NpmExternalPackageAnalysis) : Prop where
  analyses_eq : npm.componentAnalyses = .ok analyses
  components_eq : analyses.mapM toComponent = .ok components
  packages_eq : npm.externalPackageAnalyses = .ok packages
  translated : ∃ nodes, packages.mapM toExternalPackage = .ok nodes

def localIds (analyses : List NpmPackageAnalysis) : List (String × String) :=
  analyses.map fun analysis => (analysis.packageName, npmComponentId analysis.packageName)

def externalIds (packages : List NpmExternalPackageAnalysis) : List (String × String) :=
  packages.map fun package => (package.packageName, npmExternalId package.packageName)

def allDeclared (analyses : List NpmPackageAnalysis) : List DeclaredDependency :=
  analyses.flatMap fun analysis => declaredDependencies (indexedComponent analysis)

theorem mem_allDependencyNames_iff {dependencies : PackageJsonDependencySet} {name : String} :
    name ∈ dependencies.allDependencyNames ↔
      ∃ entry ∈ scopedDependencies dependencies, name ∈ entry.2.names := by
  simp [PackageJsonDependencySet.allDependencyNames, PackageJsonDependencySet.groups,
    scopedDependencies]

theorem mem_allDeclared_iff {declared : DeclaredDependency} :
    declared ∈ allDeclared analyses ↔
      ∃ analysis ∈ analyses, ∃ entry ∈ scopedDependencies analysis.dependencies,
        ∃ name ∈ entry.2.names,
          ⟨npmComponentId analysis.packageName, entry.1, name, analysis.manifestPath⟩ =
            declared := by
  simp [allDeclared, declaredDependencies, indexedComponent]

theorem analysisNames_nodup (hsupported : npm.workspace.Supported)
    (hanalyses : ComponentAnalyses npm analyses) :
    (analyses.map NpmPackageAnalysis.packageName).Nodup := by
  obtain ⟨names, hperm, hsublist⟩ := hanalyses.names_sublist
  have hnodup : (analyses.map fun analysis => some analysis.packageName).Nodup :=
    hperm.nodup_iff.mp (hsublist.nodup hsupported.names_nodup)
  apply List.Nodup.of_map some
  simpa [Function.comp_def] using hnodup

variable {packages : List NpmExternalPackageAnalysis}

theorem allComponentDependencyEdges_eq (hsupported : npm.workspace.Supported)
    (hinputs : npm.EdgeInputs analyses components packages) :
    npm.allComponentDependencyEdges =
      (do
        let edges ← (allDeclared analyses).mapM
          (resolveDependency (localIds analyses) (externalIds packages))
        pure (sortedBy Repository.dependencyEdgeSortKey edges)) := by
  have hanalyses := componentAnalyses_eq_ok hinputs.analyses_eq
  have hindex := indexNpmComponents_of_nodup hinputs.components_eq
    (analysisNames_nodup hsupported hanalyses) (by simp : ∀ analysis ∈ analyses,
      npmComponentId analysis.packageName ∉ [])
  obtain ⟨nodes, hnodes⟩ := hinputs.translated
  have hids : npm.externalPackageIds = .ok (externalIds packages) :=
    externalPackageIds_eq_ok.mpr ⟨packages, nodes, hinputs.packages_eq, hnodes, rfl⟩
  simp only [allComponentDependencyEdges, hinputs.analyses_eq, hindex, hids, ok_bind]
  rw [List.flatMap_map, List.map_map]
  rfl

theorem exists_analysis_of_name (hanalyses : ComponentAnalyses npm analyses)
    {package : PackageJsonWorkspacePackage} (hpackage : package ∈ npm.workspace.packages)
    {name : String} (hname : package.manifest.name = some name)
    (hlocated : npm.workspace.LiesIn PackageJsonWorkspace.componentSegments package) :
    ∃ analysis ∈ analyses, analysis.packageName = name := by
  obtain ⟨analysis, hmem, hof⟩ := hanalyses.complete package hpackage hlocated
  refine ⟨analysis, hmem, ?_⟩
  have heq := hof.name_eq
  rw [hname, Option.some.injEq] at heq
  exact heq.symm

theorem located_cases (hsupported : workspace.Supported) {package : PackageJsonWorkspacePackage}
    (hpackage : package ∈ workspace.packages) :
    workspace.LiesIn PackageJsonWorkspace.componentSegments package ∨
      workspace.LiesIn ["aggregators"] package := by
  obtain ⟨relative, hrelative, hsegment⟩ := hsupported.located package hpackage
  rcases List.mem_cons.mp hsegment with heq | hmem
  · exact .inr ⟨relative, hrelative, by simp [heq]⟩
  · exact .inl ⟨relative, hrelative, hmem⟩

theorem exists_edge_of_declared (hsupported : npm.workspace.Supported)
    (hinputs : npm.EdgeInputs analyses components packages)
    (hnone : ¬ npm.workspace.DeclaresAggregator) {declared : DeclaredDependency}
    (hdeclared : declared ∈ allDeclared analyses) :
    ∃ edge, resolveDependency (localIds analyses) (externalIds packages) declared =
        .ok edge ∧ npm.EdgeOf (sortedBy Component.id components) declared edge := by
  have hanalyses := componentAnalyses_eq_ok hinputs.analyses_eq
  have hexternal := externalPackageAnalyses_eq_ok hinputs.packages_eq
  obtain ⟨analysis, hanalysis, entry, hentry, name, hname, rfl⟩ :=
    mem_allDeclared_iff.mp hdeclared
  obtain ⟨component, -, hcomponent⟩ := exists_output_of_mem hinputs.components_eq hanalysis
  unfold resolveDependency
  cases hlocal : idUnder (localIds analyses) name with
  | some targetId =>
      obtain ⟨target, htarget, hkey, rfl⟩ := idUnder_map_eq_some hlocal
      obtain ⟨edge, hedge, hsource, hscope, hid⟩ := exists_dependencyEdge hcomponent
        (isBlank_append_eq_false (by decide) : isBlank (npmComponentId target.packageName) =
          false) .component entry.1 name
      refine ⟨edge, hedge, hsource, hscope, ?_, ?_⟩
      · intro node hnode hnodeName
        rw [mem_sortedBy] at hnode
        obtain ⟨other, -, hother⟩ := exists_input_of_mem hinputs.components_eq hnode
        have hkept := toComponent_eq_ok hother
        rw [hid, hkept.1, ← hkept.2, hnodeName, hkey]
        rfl
      · intro habsent
        obtain ⟨node, hnode, htranslated⟩ :=
          exists_output_of_mem hinputs.components_eq htarget
        have hkept := toComponent_eq_ok htranslated
        exact absurd (hkept.2.trans hkey) (habsent node (mem_sortedBy.mpr hnode))
  | none =>
      have hnoComponent := idUnder_map_eq_none.mp hlocal
      obtain ⟨package, hpackage, hof⟩ := hanalyses.sound analysis hanalysis
      have hnames : name ∈ package.manifest.dependencies.allDependencyNames := by
        rw [← hof.dependencies_eq]
        exact mem_allDependencyNames_iff.mpr ⟨entry, hentry, hname⟩
      have hforeign : ∀ other ∈ npm.workspace.packages, other.manifest.name ≠ some name := by
        intro other hother hotherName
        rcases located_cases hsupported hother with hlocated | hlocated
        · obtain ⟨found, hfound, heq⟩ :=
            exists_analysis_of_name hanalyses hother hotherName hlocated
          exact hnoComponent found hfound heq
        · exact hnone ⟨package, hpackage, other, hother, name, hof.located, hlocated,
            hotherName, hnames⟩
      obtain ⟨target, htarget, hkey⟩ := hexternal.complete package hpackage name hnames hforeign
      cases hother : idUnder (externalIds packages) name with
      | none => exact absurd hkey (idUnder_map_eq_none.mp hother target htarget)
      | some targetId =>
          obtain ⟨found, hfound, hfoundKey, rfl⟩ := idUnder_map_eq_some hother
          obtain ⟨edge, hedge, hsource, hscope, hid⟩ := exists_dependencyEdge hcomponent
            (isBlank_append_eq_false (by decide) : isBlank (npmExternalId found.packageName) =
              false) .externalPackage entry.1 name
          refine ⟨edge, hedge, hsource, hscope, ?_, ?_⟩
          · intro node hnode hnodeName
            rw [mem_sortedBy] at hnode
            obtain ⟨origin, horigin, htranslated⟩ :=
              exists_input_of_mem hinputs.components_eq hnode
            have hkept := toComponent_eq_ok htranslated
            exact absurd (hkept.2.symm.trans hnodeName) (hnoComponent origin horigin)
          · intro _
            obtain ⟨nodes, hnodes⟩ := hinputs.translated
            obtain ⟨node, hnode, htranslated⟩ := exists_output_of_mem hnodes hfound
            simp only [toExternalPackage, bind_eq_ok, pure_eq_ok] at htranslated
            obtain ⟨provenance, -, rfl⟩ := htranslated
            exact .inl ⟨_, getExternalPackages_eq_ok.mpr
              ⟨packages, nodes, hinputs.packages_eq, hnodes, rfl⟩, _,
              mem_sortedBy.mpr hnode, hfoundKey, hid.symm⟩

theorem not_declaresAggregator_of_edges {edges : List ComponentDependencyEdge}
    (hsupported : npm.workspace.Supported) (hinputs : npm.EdgeInputs analyses components packages)
    (hedges : (allDeclared analyses).mapM
      (resolveDependency (localIds analyses) (externalIds packages)) = .ok edges) :
    ¬ npm.workspace.DeclaresAggregator := by
  have hanalyses := componentAnalyses_eq_ok hinputs.analyses_eq
  have hexternal := externalPackageAnalyses_eq_ok hinputs.packages_eq
  rintro ⟨package, hpackage, aggregator, haggregator, name, hlocated, hdirectory, hname,
    hdeclared⟩
  obtain ⟨analysis, hanalysis, hof⟩ := hanalyses.complete package hpackage hlocated
  rw [← hof.dependencies_eq, mem_allDependencyNames_iff] at hdeclared
  obtain ⟨entry, hentry, hentryName⟩ := hdeclared
  have hmem := mem_allDeclared_iff.mpr
    ⟨analysis, hanalysis, entry, hentry, name, hentryName, rfl⟩
  obtain ⟨edge, -, hrun⟩ := exists_output_of_mem hedges hmem
  have hlocal : idUnder (localIds analyses) name = none := by
    apply idUnder_map_eq_none.mpr
    intro other hother heq
    obtain ⟨origin, horigin, horiginOf⟩ := hanalyses.sound other hother
    have hsame : origin.manifest.name = aggregator.manifest.name := by
      rw [horiginOf.name_eq, heq, hname]
    have hpackages :=
      List.inj_on_of_nodup_map hsupported.names_nodup horigin haggregator hsame
    rw [hpackages] at horiginOf
    exact LiesIn.not_both horiginOf.located hdirectory
  have hforeign : idUnder (externalIds packages) name = none := by
    apply idUnder_map_eq_none.mpr
    intro other hother heq
    apply hexternal.sound other hother aggregator haggregator
    rw [hname, heq]
  simp only [resolveDependency, hlocal, hforeign] at hrun
  exact raiseValueError_ne_ok hrun

theorem exists_edgeInputs_of_edges {edges : List ComponentDependencyEdge}
    (hok : npm.allComponentDependencyEdges = .ok edges) :
    ∃ analyses components packages, npm.EdgeInputs analyses components packages := by
  simp only [allComponentDependencyEdges, bind_eq_ok, pure_eq_ok] at hok
  obtain ⟨analyses, hanalyses, index, hindex, ids, hids, -⟩ := hok
  obtain ⟨-, components, hcomponents⟩ := indexNpmComponents_eq_ok hindex
  obtain ⟨packages, nodes, hpackages, hnodes, -⟩ := externalPackageIds_eq_ok.mp hids
  exact ⟨analyses, components, packages, hanalyses, hcomponents, hpackages, nodes, hnodes⟩

/-- The edges are total and exact exactly when the nodes can be listed and no
component declares an aggregator. -/
theorem edgesTotalAndExact_iff
    {npm : NpmAttachment} (hsupported : npm.workspace.Supported) :
    npm.EdgesTotalAndExact ↔ npm.DependenciesResolvable := by
  constructor
  · rintro ⟨edges, -, -, hedges, -⟩
    obtain ⟨analyses, components, packages, hinputs⟩ := exists_edgeInputs_of_edges hedges
    obtain ⟨nodes, hnodes⟩ := hinputs.translated
    rw [allComponentDependencyEdges_eq hsupported hinputs] at hedges
    obtain ⟨resolved, hresolved, -⟩ := bind_eq_ok.mp hedges
    constructor
    case components =>
      exact ⟨_, getComponents_eq_ok.mpr
        ⟨analyses, components, hinputs.analyses_eq, hinputs.components_eq, rfl⟩⟩
    case packages =>
      exact ⟨_, getExternalPackages_eq_ok.mpr
        ⟨packages, nodes, hinputs.packages_eq, hnodes, rfl⟩⟩
    case noAggregator =>
      exact not_declaresAggregator_of_edges hsupported hinputs hresolved
  · intro hresolvable
    obtain ⟨listed, hlisted⟩ := hresolvable.components
    obtain ⟨analyses, components, hanalyses, hcomponents, -⟩ := getComponents_eq_ok.mp hlisted
    obtain ⟨external, hexternal⟩ := hresolvable.packages
    obtain ⟨packages, nodes, hpackages, hnodes, -⟩ := getExternalPackages_eq_ok.mp hexternal
    have hinputs : npm.EdgeInputs analyses components packages :=
      ⟨hanalyses, hcomponents, hpackages, nodes, hnodes⟩
    obtain ⟨resolved, hresolved, hall⟩ := exists_outputs fun declared hdeclared =>
      exists_edge_of_declared hsupported hinputs hresolvable.noAggregator hdeclared
    refine ⟨_, analyses, _, ?_, hanalyses, getComponents_eq_ok.mpr
      ⟨analyses, components, hanalyses, hcomponents, rfl⟩, resolved,
      (sortedBy_perm Repository.dependencyEdgeSortKey resolved).symm, hall⟩
    rw [allComponentDependencyEdges_eq hsupported hinputs, hresolved]
    rfl

end NpmAttachment

/-! ## Not every workspace has total edges -/

namespace DependencySample

/-- A package below `packages` and one below `aggregators`. -/
def tree : FileTree :=
  { entries :=
      [(["w"], .directory), (["w", "package.json"], .file), (["w", "packages"], .directory),
        (["w", "packages", "app"], .directory),
        (["w", "packages", "app", "package.json"], .file),
        (["w", "aggregators"], .directory), (["w", "aggregators", "all"], .directory),
        (["w", "aggregators", "all", "package.json"], .file)]
    linkLimit := 40 }

def package (directory name : String) (dependencies : PackageJsonDependencySet) :
    PackageJsonWorkspacePackage :=
  { packageDir := ["w", directory, name]
    manifest :=
      { path := ["w", directory, name, "package.json"]
        name := some name
        dependencies := dependencies } }

def attachment (dependencies : PackageJsonDependencySet) : NpmAttachment :=
  { tree := tree
    workspace :=
      { repositoryRoot := ["w"]
        rootManifest := { path := ["w", "package.json"], name := some "root" }
        packages := [package "aggregators" "all" {}, package "packages" "app" dependencies] }
    rootRelPath := "." }

def onAggregator : NpmAttachment :=
  attachment { devDependencies := { entries := [("all", "1.0.0")] } }

def onRegistry : NpmAttachment :=
  attachment
    { dependencies := { entries := [("left-pad", "^1.0.0")] }
      peerDependencies := { entries := [("left-pad", "*")] } }

theorem supported (dependencies : PackageJsonDependencySet) :
    (attachment dependencies).workspace.Supported := by
  constructor
  case named =>
    intro listed hlisted
    rcases List.mem_pair.mp hlisted with rfl | rfl
    · exact ⟨"all", rfl⟩
    · exact ⟨"app", rfl⟩
  case names_nodup => simp [attachment, package]
  case located =>
    intro listed hlisted
    rcases List.mem_pair.mp hlisted with rfl | rfl
    · exact ⟨"aggregators/all", rfl, by decide⟩
    · exact ⟨"packages/app", rfl, by decide⟩

end DependencySample

/-- The edges of a component which declares an aggregator are not computed. -/
theorem edges_not_always_total :
    ¬ ∀ npm : NpmAttachment, npm.workspace.Supported → npm.EdgesTotalAndExact := by
  intro htotal
  obtain ⟨edges, -, -, hedges, -⟩ :=
    htotal DependencySample.onAggregator (DependencySample.supported _)
  have hraises : DependencySample.onAggregator.allComponentDependencyEdges =
      raiseValueError ("workspace dependency `all` could not be resolved for component " ++
        "`component:npm:app`") := by
    decide +kernel
  rw [hraises] at hedges
  exact raiseValueError_ne_ok hedges

/-- The characterization at the package which depends on the registry. -/
theorem edgesTotalAndExact_iff_onRegistry :
    DependencySample.onRegistry.EdgesTotalAndExact ↔
      DependencySample.onRegistry.DependenciesResolvable :=
  NpmAttachment.edgesTotalAndExact_iff (DependencySample.supported _)

end SuitCode
