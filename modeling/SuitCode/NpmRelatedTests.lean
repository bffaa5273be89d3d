import SuitCode.NpmOpenable
import SuitCode.TestActions

/-!
# Related tests of npm packages

The tests of a file are those of the first package around it, in the order of the workspace;
the tests of a component are those below its own directory.  Where packages lie in one
another these need not be the same.
-/

namespace SuitCode

open ExceptList KeyedList PosixText

/-- `RelatedTestMatch(...)`, which checks the path once more. -/
def relatedTestMatch (reason : RelationReason) (ownerId path : Option String)
    (test : DiscoveredTestDefinition) : PyResult RelatedTestMatch :=
  match path with
  | none => .ok ⟨test.testDefinition, reason, ownerId, none⟩
  | some path => do
      let stored ← normalizeRepositoryRelativePath path
      pure ⟨test.testDefinition, reason, ownerId, some stored⟩

def testBelow (packageRoot : String) (test : DiscoveredTestDefinition) : Bool :=
  test.testDefinition.testFiles.any fun testFile =>
    (packageRoot = "" && testFile ≠ "") || startsWith testFile (packageRoot ++ "/") ||
      testFile = packageRoot

def coversFile (path packageRoot : String) : Bool :=
  let normalized := removePrefix "./" (replaceChar '\\' '/' (strip path))
  packageRoot = "" || normalized = packageRoot || startsWith normalized (packageRoot ++ "/")

/-- The loop of `_package_root_for_owner`. -/
def componentRoot (ownerId : String) : List NpmPackageAnalysis → PyResult (Option String)
  | [] => .ok none
  | analysis :: analyses => do
      let component ← toComponent analysis
      if component.id = ownerId then
        pure (some analysis.packagePath)
      else
        componentRoot ownerId analyses

namespace NpmAttachment

variable (npm : NpmAttachment)

/-- The loop of `_package_root_for_file`. -/
def firstPackageRoot (path : String) :
    List PackageJsonWorkspacePackage → PyResult (Option String)
  | [] => .ok none
  | package :: packages => do
      let relative ← npm.workspace.repositoryRelPath package
      let packageRoot := rebasePath npm.rootRelPath relative
      if coversFile path packageRoot then
        pure (some packageRoot)
      else
        firstPackageRoot path packages

def packageRootForFile (path : String) : PyResult (Option String) :=
  npm.firstPackageRoot path npm.workspace.packages

def packageRootForOwner (ownerId : String) : PyResult (Option String) := do
  componentRoot ownerId (← npm.componentAnalyses)

def testsForPackageRoot (packageRoot : String) (ownerId path : Option String) :
    PyResult (List RelatedTestMatch) := do
  let discovered ← npm.getDiscoveredTests
  (discovered.filter (testBelow packageRoot)).mapM (relatedTestMatch .samePackage ownerId path)

/-- `get_related_tests` of an owner. -/
def relatedTestsOfOwner (repository : Repository) (ownerId : String) :
    PyResult (List RelatedTestMatch) := do
  let discovered ← npm.getDiscoveredTests
  let owner ← repository.resolveOwner ownerId
  if owner.kind = .testDefinition then
    match discovered.filter fun test => test.testDefinition.id = ownerId with
    | [] => raiseValueError ("test owner id could not be resolved: `" ++ ownerId ++ "`")
    | test :: _ => do
        let found ← relatedTestMatch .sameOwner (some ownerId) none test
        pure [found]
  else if owner.kind ≠ .component then
    pure []
  else
    match ← npm.packageRootForOwner owner.id with
    | none => pure []
    | some packageRoot => npm.testsForPackageRoot packageRoot (some owner.id) none

/-- `get_related_tests` of a file. -/
def relatedTestsOfFile (repository : Repository) (path : String) :
    PyResult (List RelatedTestMatch) := do
  let discovered ← npm.getDiscoveredTests
  let fileOwner ← repository.getFileOwner path
  if fileOwner.owner.kind = .testDefinition then
    match discovered.filter fun test => test.testDefinition.testFiles.contains path with
    | [] =>
        raiseValueError
          ("test-owned file could not be resolved to a test definition: `" ++ path ++ "`")
    | tests =>
        tests.mapM fun test =>
          relatedTestMatch .sameOwner (some test.testDefinition.id) (some path) test
  else if fileOwner.owner.kind ≠ .component then
    pure []
  else
    match ← npm.packageRootForFile path with
    | none => pure []
    | some packageRoot =>
        npm.testsForPackageRoot packageRoot (some fileOwner.owner.id) (some path)

def getRelatedTests (repository : Repository) :
    RelatedTestTarget → PyResult (List RelatedTestMatch)
  | .owner ownerId => npm.relatedTestsOfOwner repository ownerId
  | .file path => npm.relatedTestsOfFile repository path

/-! ## Directories -/

def packageDirectories : List String :=
  npm.workspace.packages.map fun package => rebasePath npm.rootRelPath
    (FileTree.posixText (package.packageDir.drop npm.workspace.repositoryRoot.length))

/-- The test has a file below the first package around the file. -/
def BelowFirstPackage (path : String) (test : DiscoveredTestDefinition) : Prop :=
  ∃ directory, npm.packageDirectories.find? (coversFile path) = some directory ∧
    testBelow directory test = true

end NpmAttachment

/-- The test has a file below the directory of the component. -/
def BelowComponent (analyses : List NpmPackageAnalysis) (ownerId : String)
    (test : DiscoveredTestDefinition) : Prop :=
  ∃ analysis ∈ analyses, npmComponentId analysis.packageName = ownerId ∧
    testBelow analysis.packagePath test = true

namespace NpmAttachment

variable {npm : NpmAttachment}

theorem firstPackageRoot_eq (path : String) {packages : List PackageJsonWorkspacePackage}
    (hroot : ∀ package ∈ packages, npm.workspace.repositoryRoot <+: package.packageDir) :
    npm.firstPackageRoot path packages =
      .ok ((packages.map fun package => rebasePath npm.rootRelPath (FileTree.posixText
        (package.packageDir.drop npm.workspace.repositoryRoot.length))).find?
          (coversFile path)) := by
  induction packages with
  | nil => rfl
  | cons package packages ih =>
      have hrelative := relativePosix_of_below (hroot package List.mem_cons_self)
      have hrest := ih fun other hother => hroot other (List.mem_cons_of_mem _ hother)
      rw [firstPackageRoot, PackageJsonWorkspace.repositoryRelPath, hrelative, ok_bind,
        List.map_cons]
      by_cases hcovers : coversFile path (rebasePath npm.rootRelPath (FileTree.posixText
          (package.packageDir.drop npm.workspace.repositoryRoot.length))) = true
      · rw [if_pos hcovers, List.find?_cons_of_pos hcovers]
        rfl
      · rw [if_neg hcovers, List.find?_cons_of_neg hcovers]
        exact hrest

theorem packageRootForFile_eq (hsupported : npm.workspace.Supported) (path : String) :
    npm.packageRootForFile path = .ok (npm.packageDirectories.find? (coversFile path)) :=
  firstPackageRoot_eq path fun package hpackage =>
    root_prefix_of_liesIn (hsupported.located package hpackage)

end NpmAttachment

theorem id_of_toComponent {analysis : NpmPackageAnalysis} {component : Component}
    (hok : toComponent analysis = .ok component) :
    component.id = npmComponentId analysis.packageName := by
  simp only [toComponent, bind_eq_ok, pure_eq_ok] at hok
  obtain ⟨entry, -, rfl⟩ := hok
  rfl

theorem componentRoot_eq {ownerId : String} {analyses : List NpmPackageAnalysis}
    (htranslated : ∀ analysis ∈ analyses, ∃ component, toComponent analysis = .ok component) :
    componentRoot ownerId analyses =
      .ok ((analyses.find? fun analysis => npmComponentId analysis.packageName = ownerId).map
        NpmPackageAnalysis.packagePath) := by
  induction analyses with
  | nil => rfl
  | cons analysis analyses ih =>
      obtain ⟨component, hcomponent⟩ := htranslated analysis List.mem_cons_self
      have hrest := ih fun other hother => htranslated other (List.mem_cons_of_mem _ hother)
      rw [componentRoot, hcomponent, ok_bind, id_of_toComponent hcomponent]
      by_cases hid : npmComponentId analysis.packageName = ownerId
      · rw [if_pos hid, List.find?_cons_of_pos (by simpa using hid)]
        rfl
      · rw [if_neg hid, List.find?_cons_of_neg (by simpa using hid)]
        exact hrest

variable {reason : RelationReason} {test : DiscoveredTestDefinition}

/-! ## Matches -/

theorem testDefinition_of_match {ownerId path : Option String} {found : RelatedTestMatch}
    (hok : relatedTestMatch reason ownerId path test = .ok found) :
    found.testDefinition = test.testDefinition := by
  unfold relatedTestMatch at hok
  cases path with
  | none =>
      cases hok
      rfl
  | some path =>
      obtain ⟨stored, -, hfound⟩ := bind_eq_ok.mp hok
      cases hfound
      rfl

theorem ids_of_matches {ownerId path : Option String} {tests : List DiscoveredTestDefinition}
    {found : List RelatedTestMatch}
    (hok : tests.mapM (relatedTestMatch reason ownerId path) = .ok found) :
    (found.map fun item => item.testDefinition.id) =
      tests.map fun test => test.testDefinition.id := by
  apply map_outputs_eq _ _ hok
  intro test _ item hitem
  rw [testDefinition_of_match hitem]

theorem exists_matches_iff {ownerId path : Option String} {tests : List DiscoveredTestDefinition} :
    (∃ found, tests.mapM (relatedTestMatch reason ownerId path) = .ok found) ↔
      ∀ test ∈ tests, ∀ text, path = some text →
        ∃ stored, normalizeRepositoryRelativePath text = .ok stored := by
  rw [exists_mapM_iff]
  apply forall₂_congr
  intro test _
  unfold relatedTestMatch
  cases path with
  | none => simp
  | some text => simp [map_eq_ok]

/-! ## The tests of a file and of its owner -/

/-- What `get_related_tests` gives below a directory, if there is one. -/
def relatedBelow (discovered : List DiscoveredTestDefinition) (directory : Option String)
    (ownerId path : Option String) : PyResult (List RelatedTestMatch) :=
  match directory with
  | none => .ok []
  | some packageRoot =>
      (discovered.filter (testBelow packageRoot)).mapM
        (relatedTestMatch .samePackage ownerId path)

def belowSome (directory : Option String) (test : DiscoveredTestDefinition) : Bool :=
  directory.any fun packageRoot => testBelow packageRoot test

theorem exists_relatedBelow_iff {discovered : List DiscoveredTestDefinition}
    {directory ownerId path : Option String} :
    (∃ found, relatedBelow discovered directory ownerId path = .ok found) ↔
      ∀ test ∈ discovered, belowSome directory test = true → ∀ text, path = some text →
        ∃ stored, normalizeRepositoryRelativePath text = .ok stored := by
  cases directory with
  | none => simp [relatedBelow, belowSome]
  | some packageRoot =>
      simp only [relatedBelow, exists_matches_iff, List.mem_filter, belowSome, Option.any_some,
        and_imp]

theorem ids_of_relatedBelow {discovered : List DiscoveredTestDefinition}
    {directory ownerId path : Option String} {found : List RelatedTestMatch}
    (hok : relatedBelow discovered directory ownerId path = .ok found) (testId : String) :
    testId ∈ (found.map fun item => item.testDefinition.id) ↔
      ∃ test ∈ discovered, belowSome directory test = true ∧
        test.testDefinition.id = testId := by
  cases directory with
  | none =>
      cases hok
      simp [belowSome]
  | some packageRoot =>
      rw [ids_of_matches hok]
      simp [belowSome, and_assoc]

namespace NpmAttachment

variable {npm : NpmAttachment} {repository : Repository} {path : String}
  {fileOwner : FileOwnerInfo} {analyses : List NpmPackageAnalysis}
  {components : List Component} {discovered : List DiscoveredTestDefinition}

theorem getRelatedTests_file (hsupported : npm.workspace.Supported)
    (howner : repository.getFileOwner path = .ok fileOwner)
    (hkind : fileOwner.owner.kind = .component)
    (htests : npm.getDiscoveredTests = .ok discovered) :
    npm.getRelatedTests repository (.file path) =
      relatedBelow discovered (npm.packageDirectories.find? (coversFile path))
        (some fileOwner.owner.id) (some path) := by
  simp only [getRelatedTests, relatedTestsOfFile, htests, ok_bind, howner, hkind, reduceCtorEq,
    if_false, ne_eq, not_true_eq_false, packageRootForFile_eq hsupported, testsForPackageRoot]
  cases npm.packageDirectories.find? (coversFile path) with
  | none => rfl
  | some packageRoot => rfl

theorem resolveOwner_of_getFileOwner
    (howner : repository.getFileOwner path = .ok fileOwner) :
    repository.resolveOwner fileOwner.owner.id = .ok fileOwner.owner := by
  obtain ⟨index, hfacts⟩ := Repository.getFileOwner_facts howner
  rw [Repository.resolveOwner, hfacts.index_eq, ok_bind]
  exact hfacts.ownerInfo_eq

theorem getRelatedTests_owner
    (howner : repository.getFileOwner path = .ok fileOwner)
    (hkind : fileOwner.owner.kind = .component)
    (hanalyses : npm.componentAnalyses = .ok analyses)
    (hcomponents : analyses.mapM toComponent = .ok components)
    (htests : npm.getDiscoveredTests = .ok discovered) :
    npm.getRelatedTests repository (.owner fileOwner.owner.id) =
      relatedBelow discovered ((analyses.find? fun analysis =>
        npmComponentId analysis.packageName = fileOwner.owner.id).map
          NpmPackageAnalysis.packagePath) (some fileOwner.owner.id) none := by
  have htranslated := exists_mapM_iff.mp ⟨components, hcomponents⟩
  simp only [getRelatedTests, relatedTestsOfOwner, htests, ok_bind,
    resolveOwner_of_getFileOwner howner, hkind, reduceCtorEq, if_false, ne_eq,
    not_true_eq_false, packageRootForOwner, hanalyses, componentRoot_eq htranslated,
    testsForPackageRoot]
  cases (analyses.find? fun analysis =>
      npmComponentId analysis.packageName = fileOwner.owner.id).map
        NpmPackageAnalysis.packagePath with
  | none => rfl
  | some packageRoot => rfl

/-! ## The ids of the tests -/

theorem testNames_sublist {packages : List PackageJsonWorkspacePackage}
    {found : List (Option NpmTestAnalysis)}
    (hall : List.Forall₂ (fun package output =>
      discoverTest npm.tree npm.tools npm.workspace package = .ok output) packages found) :
    ((found.filterMap id).map fun analysis => some analysis.packageName).Sublist
      (packages.map fun package => package.manifest.name) := by
  induction hall with
  | nil => exact .slnil
  | @cons package output _ _ hhead _ ih =>
      cases output with
      | none => exact ih.cons _
      | some analysis =>
          have hname : package.manifest.name = some analysis.packageName := by
            simp only [discoverTest, bind_eq_ok] at hhead
            obtain ⟨name, hname, hfound⟩ := hhead
            cases hscript : resolveTestScript package.manifest with
            | none =>
                rw [hscript] at hfound
                cases hfound
            | some script =>
                rw [hscript] at hfound
                simp only [bind_eq_ok, pure_eq_ok, Option.some.injEq] at hfound
                obtain ⟨-, -, -, -, rfl⟩ := hfound
                unfold PackageJsonWorkspace.packageName at hname
                cases hmanifest : package.manifest.name with
                | none => simp [hmanifest] at hname
                | some other => simpa [hmanifest] using hname
          rw [List.map_cons, hname]
          exact ih.cons_cons _

theorem discoveredIds_nodup_of_supported (hsupported : npm.workspace.Supported)
    (htests : npm.getDiscoveredTests = .ok discovered) :
    (discovered.map fun test => test.testDefinition.id).Nodup := by
  simp only [getDiscoveredTests, testAnalyses, analyzeTests, bind_eq_ok, pure_eq_ok] at htests
  obtain ⟨rebased, ⟨sorted, ⟨found, hfound, rfl⟩, rfl⟩, translated, htranslated, rfl⟩ := htests
  have hnames : ((found.filterMap id).map NpmTestAnalysis.packageName).Nodup := by
    have hsublist := testNames_sublist (mapM_eq_ok_iff.mp hfound)
    have hnodup := hsublist.nodup hsupported.names_nodup
    apply List.Nodup.of_map some
    rwa [List.map_map]
  have hids := map_outputs_eq (fun test => test.testDefinition.id)
    (fun analysis => npmTestId analysis.packageName) htranslated fun analysis _ test htest =>
      toDiscoveredTest_id htest
  have hrebased : ∀ analysis : NpmTestAnalysis,
      (rebaseTest npm.rootRelPath analysis).packageName = analysis.packageName := by
    intro analysis
    unfold rebaseTest
    rfl
  have hsorted := (sortedBy_perm (fun test : DiscoveredTestDefinition => test.testDefinition.id)
    translated).map fun test => test.testDefinition.id
  have hunsorted := ((sortedBy_perm NpmTestAnalysis.packageName (found.filterMap id)).map
    NpmTestAnalysis.packageName).nodup_iff.mpr hnames
  have hmapped := hunsorted.map npmTestId_injective
  rw [List.map_map] at hmapped
  rw [hsorted.nodup_iff, hids, List.map_map]
  simp only [Function.comp_def, hrebased] at hmapped ⊢
  exact hmapped

structure ReportsNodes (npm : NpmAttachment) (provider : Provider) : Prop where
  components_eq : npm.getComponents = .ok provider.components
  tests_eq : npm.getDiscoveredTests = .ok provider.discoveredTests
  files_eq : npm.getFiles = .ok provider.files

/-! ## When they agree -/

/-- Both targets are answered, with the same test ids. -/
def RelatedTestsAgree (npm : NpmAttachment) (repository : Repository) (path ownerId : String) :
    Prop :=
  ∃ ofFile ofOwner, npm.getRelatedTests repository (.file path) = .ok ofFile ∧
    npm.getRelatedTests repository (.owner ownerId) = .ok ofOwner ∧
      ∀ testId, testId ∈ (ofFile.map fun item => item.testDefinition.id) ↔
        testId ∈ ofOwner.map fun item => item.testDefinition.id

theorem belowSome_first_iff :
    belowSome (npm.packageDirectories.find? (coversFile path)) test = true ↔
      npm.BelowFirstPackage path test := by
  unfold belowSome BelowFirstPackage
  rw [Option.any_eq_true]

theorem belowSome_component_iff {ownerId : String}
    (hnames : (analyses.map NpmPackageAnalysis.packageName).Nodup) :
    belowSome ((analyses.find? fun analysis =>
        npmComponentId analysis.packageName = ownerId).map NpmPackageAnalysis.packagePath) test =
          true ↔ BelowComponent analyses ownerId test := by
  have hids : (analyses.map fun analysis => npmComponentId analysis.packageName).Nodup := by
    have hmapped := hnames.map npmComponentId_injective
    rwa [List.map_map] at hmapped
  unfold belowSome BelowComponent
  rw [Option.any_eq_true]
  constructor
  · intro hbelow
    obtain ⟨packageRoot, hroot, hbelow⟩ := hbelow
    obtain ⟨analysis, hfound, rfl⟩ := Option.map_eq_some_iff.mp hroot
    have hid : npmComponentId analysis.packageName = ownerId := by
      simpa using List.find?_some hfound
    exact ⟨analysis, List.mem_of_find?_eq_some hfound, hid, hbelow⟩
  · intro hbelow
    obtain ⟨analysis, hanalysis, hid, hbelow⟩ := hbelow
    have hfound : leader? (fun analysis => npmComponentId analysis.packageName) analyses
        ownerId = some analysis := (leader?_eq_some_iff hids).mpr ⟨hanalysis, hid⟩
    exact ⟨analysis.packagePath, Option.map_eq_some_iff.mpr ⟨analysis, hfound, rfl⟩, hbelow⟩

/-- The tests of a file are those of its owner exactly where every test with a file below the
first package around the file has one below the component, and the other way round, and the
path is accepted where tests are reported of it. -/
theorem relatedTestsAgree_iff (hsupported : npm.workspace.Supported)
    (howner : repository.getFileOwner path = .ok fileOwner)
    (hkind : fileOwner.owner.kind = .component)
    (hanalyses : npm.componentAnalyses = .ok analyses)
    (hcomponents : analyses.mapM toComponent = .ok components)
    (htests : npm.getDiscoveredTests = .ok discovered) :
    npm.RelatedTestsAgree repository path fileOwner.owner.id ↔
      ∀ test ∈ discovered,
        (npm.BelowFirstPackage path test ↔ BelowComponent analyses fileOwner.owner.id test) ∧
          (npm.BelowFirstPackage path test →
            ∃ stored, normalizeRepositoryRelativePath path = .ok stored) := by
  have hids := discoveredIds_nodup_of_supported hsupported htests
  have hnames := analysisNames_nodup hsupported (componentAnalyses_eq_ok hanalyses)
  unfold RelatedTestsAgree
  rw [getRelatedTests_file hsupported howner hkind htests,
    getRelatedTests_owner howner hkind hanalyses hcomponents htests]
  simp only [← belowSome_first_iff, ← belowSome_component_iff hnames]
  generalize npm.packageDirectories.find? (coversFile path) = first
  generalize (analyses.find? fun analysis =>
    npmComponentId analysis.packageName = fileOwner.owner.id).map
      NpmPackageAnalysis.packagePath = own
  constructor
  · intro hagree test htest
    obtain ⟨ofFile, ofOwner, hfile, hown, hsame⟩ := hagree
    have hreported := exists_relatedBelow_iff.mp ⟨ofFile, hfile⟩
    have hsame' := hsame test.testDefinition.id
    rw [ids_of_relatedBelow hfile, ids_of_relatedBelow hown] at hsame'
    have hunique : ∀ (directory : Option String), (∃ other ∈ discovered,
        belowSome directory other = true ∧ other.testDefinition.id = test.testDefinition.id) ↔
          belowSome directory test = true := by
      intro directory
      constructor
      · intro hother
        obtain ⟨other, hmem, hbelow, hid⟩ := hother
        rwa [List.inj_on_of_nodup_map hids hmem htest hid] at hbelow
      · intro hbelow
        exact ⟨test, htest, hbelow, rfl⟩
    rw [hunique, hunique] at hsame'
    exact ⟨hsame', fun hbelow => hreported test htest hbelow path rfl⟩
  · intro hall
    have hfileOk : ∃ ofFile,
        relatedBelow discovered first (some fileOwner.owner.id) (some path) = .ok ofFile := by
      rw [exists_relatedBelow_iff]
      intro test htest hbelow text htext
      rw [← Option.some.inj htext]
      exact (hall test htest).2 hbelow
    have hownerOk : ∃ ofOwner,
        relatedBelow discovered own (some fileOwner.owner.id) none = .ok ofOwner := by
      rw [exists_relatedBelow_iff]
      intro _ _ _ _ htext
      cases htext
    obtain ⟨ofFile, hfile⟩ := hfileOk
    obtain ⟨ofOwner, hown⟩ := hownerOk
    refine ⟨ofFile, ofOwner, hfile, hown, fun testId => ?_⟩
    rw [ids_of_relatedBelow hfile, ids_of_relatedBelow hown]
    constructor
    · intro hreported
      obtain ⟨test, htest, hbelow, hid⟩ := hreported
      exact ⟨test, htest, (hall test htest).1.mp hbelow, hid⟩
    · intro hreported
      obtain ⟨test, htest, hbelow, hid⟩ := hreported
      exact ⟨test, htest, (hall test htest).1.mpr hbelow, hid⟩

end NpmAttachment

/-! ## A package in a package -/

namespace NestedSample

def package (directory : List String) (name : String) (scripts : List (String × String))
    (hnames : (scripts.map Prod.fst).Nodup) : PackageJsonWorkspacePackage :=
  { packageDir := "w" :: "libs" :: directory
    manifest :=
      { path := "w" :: "libs" :: directory ++ ["package.json"]
        name := some name
        scripts := { entries := scripts, names_nodup := hnames } } }

def attachment : NpmAttachment :=
  { tree :=
      { entries :=
          [(["w"], .directory), (["w", "libs"], .directory), (["w", "libs", "a"], .directory),
            (["w", "libs", "a", "package.json"], .file),
            (["w", "libs", "a", "t.test.js"], .file),
            (["w", "libs", "a", "b"], .directory),
            (["w", "libs", "a", "b", "package.json"], .file)]
        linkLimit := 40 }
    workspace :=
      { repositoryRoot := ["w"]
        rootManifest := { path := ["w", "package.json"], name := some "root" }
        packages :=
          [package ["a"] "a" [("test", "node --test")] (by decide),
            package ["a", "b"] "b" [] (by decide)] }
    rootRelPath := "." }

def component (name manifest : String) : Component :=
  { id := "component:npm:" ++ name
    name := name
    componentKind := .library
    language := .javascript
    sourceRoots := []
    artifactPaths := []
    provenance := [⟨.authoritative, .manifest, none,
      "derived from npm workspace package metadata", [manifest]⟩] }

def file (path ownerId : String) (language : Option ProgrammingLanguage) : FileInfo :=
  { id := "file:" ++ path
    name := path
    repositoryRelPath := path
    language := language
    ownerId := ownerId
    provenance := [⟨.derived, .ownership, none,
      "assigned to an owner using npm provider ownership derivation", [path]⟩] }

def testProvenance : List ProvenanceEntry :=
  [⟨.heuristic, .heuristic, none,
    "derived from package manifest test script metadata and test file globs",
    ["libs/a/package.json", "libs/a/t.test.js"]⟩]

def tests : List DiscoveredTestDefinition :=
  [⟨⟨"test:npm:a", "a:test", .other, ["libs/a/t.test.js"], testProvenance⟩,
    testProvenance⟩]

def provider : Provider :=
  { providerId := "npm"
    components :=
      [component "a" "libs/a/package.json", component "b" "libs/a/b/package.json"]
    discoveredTests := tests
    runners := [⟨"runner:npm:a:test", "a:test", ["npm", "run", "test"], some "libs/a",
      [⟨.authoritative, .manifest, none, "derived from npm package script metadata",
        ["libs/a/package.json"]⟩]⟩]
    packageManagers := [⟨"pkgmgr:npm:root", "npm", "npm", some "libs/a/b/package.json",
      [⟨.derived, .manifest, none, "derived from npm ecosystem config and manifest detection",
        ["libs/a/b/package.json"]⟩]⟩]
    files :=
      [file "libs/a/b/package.json" "component:npm:b" none,
        file "libs/a/package.json" "component:npm:a" none,
        file "libs/a/t.test.js" "test:npm:a" (some .javascript)] }

def repository : Repository := ⟨"/w", [provider], fun _ => [.architecture, .test]⟩

def manifestOwner (path name : String) : FileOwnerInfo :=
  { fileInfo := file path ("component:npm:" ++ name) none
    owner := ⟨"component:npm:" ++ name, .component, name⟩ }

theorem tests_ok : attachment.getDiscoveredTests = .ok tests := by
  decide +kernel

theorem reports : attachment.ReportsNodes provider := by
  constructor
  case components_eq => decide +kernel
  case tests_eq =>
    simp only [provider]
    exact tests_ok
  case files_eq => decide +kernel

theorem outer_owned : repository.getFileOwner "libs/a/package.json" =
    .ok (manifestOwner "libs/a/package.json" "a") := by
  decide

theorem inner_owned : repository.getFileOwner "libs/a/b/package.json" =
    .ok (manifestOwner "libs/a/b/package.json" "b") := by
  decide

theorem supported : attachment.workspace.Supported := by
  constructor
  case named =>
    intro package hpackage
    cases List.mem_cons.mp hpackage with
    | inl houter => exact ⟨"a", by rw [houter]; rfl⟩
    | inr hrest => exact ⟨"b", by rw [List.mem_singleton.mp hrest]; rfl⟩
  case names_nodup => decide
  case located =>
    intro package hpackage
    cases List.mem_cons.mp hpackage with
    | inl houter => exact ⟨"libs/a", by rw [houter]; decide, by decide⟩
    | inr hrest =>
        rw [List.mem_singleton.mp hrest]
        exact ⟨"libs/a/b", by decide, by decide⟩

def analysis (name path : String) : NpmPackageAnalysis :=
  { packageName := name
    packagePath := path
    manifestPath := path ++ "/package.json"
    componentKind := .library
    language := .javascript
    sourceRoots := []
    packageOwnedPaths := []
    artifactPaths := []
    localDependencies := []
    externalDependencies := []
    dependencies := {} }

def analyses : List NpmPackageAnalysis :=
  [analysis "a" "libs/a", analysis "b" "libs/a/b"]

theorem analyses_ok : attachment.componentAnalyses = .ok analyses := by
  decide +kernel

theorem components_ok : analyses.mapM toComponent = .ok provider.components := by
  decide +kernel

end NestedSample

/-- The characterization at the manifest of the outer package. -/
theorem relatedTestsAgree_iff_outer :
    NestedSample.attachment.RelatedTestsAgree NestedSample.repository "libs/a/package.json"
        "component:npm:a" ↔
      ∀ test ∈ NestedSample.tests,
        (NestedSample.attachment.BelowFirstPackage "libs/a/package.json" test ↔
            BelowComponent NestedSample.analyses "component:npm:a" test) ∧
          (NestedSample.attachment.BelowFirstPackage "libs/a/package.json" test →
            ∃ stored, normalizeRepositoryRelativePath "libs/a/package.json" = .ok stored) := by
  have hid : (NestedSample.manifestOwner "libs/a/package.json" "a").owner.id =
      "component:npm:a" := by
    decide
  have hagree := NpmAttachment.relatedTestsAgree_iff NestedSample.supported
    NestedSample.outer_owned rfl NestedSample.analyses_ok NestedSample.components_ok
      NestedSample.tests_ok
  rw [hid] at hagree
  exact hagree

/-- The manifest of the inner package has the test of the outer one. -/
theorem relatedTests_not_always_agree :
    ¬ ∀ (npm : NpmAttachment) (repository : Repository) (provider : Provider) (path : String)
      (fileOwner : FileOwnerInfo), npm.workspace.Supported → npm.ReportsNodes provider →
        provider ∈ repository.providers → repository.getFileOwner path = .ok fileOwner →
          fileOwner.owner.kind = .component →
            npm.RelatedTestsAgree repository path fileOwner.owner.id := by
  intro halways
  obtain ⟨ofFile, ofOwner, hfile, hown, hsame⟩ := halways _ _ _ _ _ NestedSample.supported
    NestedSample.reports (List.mem_singleton_self _) NestedSample.inner_owned rfl
  rw [NpmAttachment.getRelatedTests_file NestedSample.supported NestedSample.inner_owned rfl
    NestedSample.tests_ok] at hfile
  rw [NpmAttachment.getRelatedTests_owner NestedSample.inner_owned rfl
    NestedSample.analyses_ok NestedSample.components_ok NestedSample.tests_ok] at hown
  have hreported := hsame "test:npm:a"
  rw [ids_of_relatedBelow hfile, ids_of_relatedBelow hown] at hreported
  have houter : ∃ test ∈ NestedSample.tests,
      belowSome (NestedSample.attachment.packageDirectories.find?
        (coversFile "libs/a/b/package.json")) test = true ∧
          test.testDefinition.id = "test:npm:a" := by
    decide
  have hinner : ¬ ∃ test ∈ NestedSample.tests,
      belowSome ((NestedSample.analyses.find? fun analysis =>
        npmComponentId analysis.packageName =
          (NestedSample.manifestOwner "libs/a/b/package.json" "b").owner.id).map
            NpmPackageAnalysis.packagePath) test = true ∧
              test.testDefinition.id = "test:npm:a" := by
    decide
  exact hinner (hreported.mp houter)

end SuitCode
