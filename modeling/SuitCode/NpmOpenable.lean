import SuitCode.NpmFileInventory

/-!
# The workspaces whose files are assigned

The components, aggregators, runners, tests and package managers of a supported workspace
are found unless an entry of a manifest, a script or a listing of tests leads out of the
repository.  Their claims are then assigned unless two of the best precedence disagree.
-/

namespace SuitCode

open PosixText KeyedList ExceptList

/-! ## What a workspace must be like -/

namespace PackageJsonWorkspace

/-- What the loader gives: manifests in the package directories, which are paths of names. -/
structure Loaded (workspace : PackageJsonWorkspace) : Prop where
  manifests : ∀ package ∈ workspace.packages,
    package.manifest.path = package.packageDir ++ ["package.json"]
  names : ∀ package ∈ workspace.packages, ∀ name ∈ package.packageDir,
    '/' ∉ name.toList ∧ name ≠ "."

end PackageJsonWorkspace

def usedListing (tools : NpmTestTools) (command : String) :
    Option (String → PyResult (List String)) :=
  if containsText (lowerText command) "jest" then tools.jest
  else if containsText (lowerText command) "vitest" then tools.vitest
  else none

def listedPath (tree : FileTree) (packagePath : List String) (line : String) :
    Option (List String) :=
  if rootOf line = "" then tree.resolve (packagePath ++ segments line)
  else some (segments line)

def StartsExecutable (command : String) : Prop :=
  strip command ≠ "" ∧
    (tokenizedSegments (strip command)).any isExternalExecutableSegment = true

namespace NpmAttachment

def EntriesInside (npm : NpmAttachment) (package : PackageJsonWorkspacePackage) : Prop :=
  ∀ entry ∈ manifestEntries package.manifest,
    npm.tree.pathExists (FileTree.joined package.packageDir entry) = true →
      rootOf entry ≠ "//" ∧
        npm.workspace.repositoryRoot <+: FileTree.joined package.packageDir entry

/-- The files which the scripts of a package refer to lie in the repository. -/
def ScriptsInside (npm : NpmAttachment) (package : PackageJsonWorkspacePackage) : Prop :=
  ∀ script ∈ package.manifest.scripts.entries, StartsExecutable script.2 →
    ∀ file ∈ referencedFiles npm.tree package.packageDir (strip script.2),
      npm.workspace.repositoryRoot <+: file

def ListsInside (npm : NpmAttachment) (listing : String → PyResult (List String))
    (packagePath : String) : Prop :=
  ∃ lines, listing packagePath = .ok lines ∧
    ∀ line ∈ lines, strip line ≠ "" →
      ∃ file, listedPath npm.tree
          ((npm.tree.resolve
            (FileTree.joined npm.workspace.repositoryRoot packagePath)).getD [])
          (strip line) = some file ∧
        npm.tree.isFile file = true ∧ npm.workspace.repositoryRoot <+: file

/-- The listing which the test script of a package uses gives files of the repository. -/
def ListingInside (npm : NpmAttachment) (package : PackageJsonWorkspacePackage) : Prop :=
  ∀ script, resolveTestScript package.manifest = some script →
    ∀ listing, usedListing npm.tools script.2 = some listing →
      ∀ packagePath, npm.workspace.repositoryRelPath package = .ok packagePath →
        npm.ListsInside listing packagePath

/-- The condition under which the files of a workspace are assigned. -/
structure Openable {φ : Type} (npm : NpmAttachment) (fileOf : String → φ) : Prop where
  entries : ∀ package ∈ npm.workspace.packages,
    npm.workspace.LiesIn PackageJsonWorkspace.componentSegments package →
      npm.EntriesInside package
  scripts : ∀ package ∈ npm.workspace.packages, npm.ScriptsInside package
  listings : ∀ package ∈ npm.workspace.packages, npm.ListingInside package
  settled : ∀ claims, npm.claims = .ok claims → ClaimsSettled fileOf claims

end NpmAttachment

variable {root : List String} {text command packagePath tool : String}

/-! ## Paths of a package -/

theorem exists_relativePosix_iff {path : List String} :
    (∃ relative, relativePosix root path = .ok relative) ↔ root <+: path := by
  unfold relativePosix FileTree.relativeTo
  by_cases hroot : root <+: path
  · simp [hroot]
  · simp [hroot]

theorem relativePosix_of_below {path : List String} (hroot : root <+: path) :
    relativePosix root path = .ok (FileTree.posixText (path.drop root.length)) := by
  unfold relativePosix FileTree.relativeTo
  simp [hroot]

theorem root_prefix_of_liesIn {workspace : PackageJsonWorkspace} {directories : List String}
    {package : PackageJsonWorkspacePackage} (hlies : workspace.LiesIn directories package) :
    workspace.repositoryRoot <+: package.packageDir := by
  obtain ⟨relative, hrelative, -⟩ := hlies
  exact exists_relativePosix_iff.mp ⟨relative, hrelative⟩

/-! ## Paths which begin with a letter -/

/-- The text begins with a character which is kept by all steps of the normalization. -/
def BeginsPlain (text : String) : Prop :=
  ∃ c rest, text.toList = c :: rest ∧ isSpace c = false ∧ c ≠ '\\' ∧ c ≠ '/' ∧ c ≠ '.'

theorem BeginsPlain.replaceChar {text : String} (hplain : BeginsPlain text) :
    BeginsPlain (replaceChar '\\' '/' text) := by
  obtain ⟨c, rest, htext, hspace, hback, hslash, hdot⟩ := hplain
  refine ⟨c, rest.map fun c => if c = '\\' then '/' else c, ?_, hspace, hback, hslash, hdot⟩
  rw [toList_replaceChar, htext, List.map_cons, if_neg hback]

theorem BeginsPlain.strip {text : String} (hplain : BeginsPlain text) :
    BeginsPlain (strip text) := by
  obtain ⟨c, rest, htext, hspace, hback, hslash, hdot⟩ := hplain
  have hfront : (c :: rest).dropWhile isSpace = c :: rest := by
    rw [List.dropWhile_cons_of_neg]
    simp [hspace]
  have hstrip : (PosixText.strip text).toList = (c :: rest).rdropWhile isSpace := by
    rw [toList_strip, htext, hfront]
  cases hchars : (c :: rest).rdropWhile isSpace with
  | nil =>
      have hall := List.rdropWhile_eq_nil_iff.mp hchars
      have hc := hall c List.mem_cons_self
      rw [hspace] at hc
      cases hc
  | cons first others =>
      have hprefix := List.rdropWhile_prefix isSpace (c :: rest)
      rw [hchars, List.cons_prefix_cons] at hprefix
      rw [hchars, hprefix.1] at hstrip
      exact ⟨c, others, hstrip, hspace, hback, hslash, hdot⟩

theorem BeginsPlain.append (hplain : BeginsPlain text) (rest : String) :
    BeginsPlain (text ++ rest) := by
  obtain ⟨c, others, htext, hc⟩ := hplain
  exact ⟨c, others ++ rest.toList, by simp [htext], hc⟩

theorem BeginsPlain.removePrefix_dot (hplain : BeginsPlain text) :
    removePrefix "./" text = text := by
  obtain ⟨c, rest, htext, -, -, -, hdot⟩ := hplain
  unfold removePrefix startsWith
  simp [htext, Ne.symm hdot]

theorem BeginsPlain.not_startsWith {start : String} (hplain : BeginsPlain text)
    (hstart : start.toList.head? = some '/' ∨ start.toList.head? = some '.') :
    startsWith text start = false := by
  obtain ⟨c, rest, htext, -, -, hslash, hdot⟩ := hplain
  unfold startsWith
  rw [htext]
  cases hchars : start.toList with
  | nil => simp [hchars] at hstart
  | cons first others =>
      simp only [hchars, List.head?_cons, Option.some.injEq] at hstart
      cases hstart with
      | inl heq =>
          rw [heq, List.isPrefixOf_cons_cons]
          simp [Ne.symm hslash]
      | inr heq =>
          rw [heq, List.isPrefixOf_cons_cons]
          simp [Ne.symm hdot]

theorem BeginsPlain.purePosixPath {text : String} (hplain : BeginsPlain text) :
    BeginsPlain (purePosixPath text) := by
  have hrelative : startsWith text "/" = false := hplain.not_startsWith (.inl rfl)
  obtain ⟨c, rest, htext, hspace, hback, hslash, hdot⟩ := hplain
  have hpieces : ∃ first others, pieces text = String.ofList (c :: first) :: others := by
    unfold pieces
    rw [htext, List.splitOn_cons_eq_if_modifyHead, if_neg (by simp [hslash])]
    cases hrest : rest.splitOn '/' with
    | nil => exact absurd hrest (List.splitOn_ne_nil '/' rest)
    | cons first others => exact ⟨first, others.map String.ofList, by simp⟩
  obtain ⟨first, others, hpieces⟩ := hpieces
  have hfirst : String.ofList (c :: first) ≠ "" ∧ String.ofList (c :: first) ≠ "." := by
    constructor
    · intro heq
      simpa using congrArg String.toList heq
    · intro heq
      have hchars := congrArg String.toList heq
      rw [String.toList_ofList] at hchars
      exact hdot (List.cons.inj hchars).1
  have hsegments : ∃ more, segments text = String.ofList (c :: first) :: more := by
    unfold segments
    have hkept : (String.ofList (c :: first) ≠ "" && String.ofList (c :: first) ≠ ".") = true := by
      rw [decide_eq_true hfirst.1, decide_eq_true hfirst.2]
      rfl
    simp only [hpieces, List.filter_cons, hkept, if_true]
    exact ⟨_, rfl⟩
  obtain ⟨more, hsegments⟩ := hsegments
  rw [purePosixPath_of_relative hrelative, hsegments, if_neg (by simp)]
  cases more with
  | nil => exact ⟨c, first, by simp [join], hspace, hback, hslash, hdot⟩
  | cons next more =>
      refine ⟨c, first ++ ("/" ++ join "/" (next :: more)).toList, ?_, hspace, hback, hslash,
        hdot⟩
      simp [join]

theorem exists_normalized {path : String} (hplain : BeginsPlain path) :
    ∃ stored, normalizeRepositoryRelativePath path = .ok stored := by
  have hstripped := hplain.replaceChar.strip
  have hstored : BeginsPlain (PosixText.purePosixPath
      (removePrefix "./" (PosixText.strip (PosixText.replaceChar '\\' '/' path)))) := by
    rw [hstripped.removePrefix_dot]
    exact hstripped.purePosixPath
  refine ⟨_, normalizeRepositoryRelativePath_eq_ok.mpr ⟨rfl, ?_, ?_, ?_⟩⟩
  · exact hstored.not_startsWith (.inl rfl)
  · intro heq
    obtain ⟨c, rest, htext, -, -, -, hdot⟩ := hstored
    rw [heq] at htext
    exact hdot (List.cons.inj htext).1.symm
  · exact hstored.not_startsWith (.inr rfl)

theorem beginsPlain_of_mem
    (hmem : text ∈ ["tools", "apps", "services", "packages", "libs", "modules", "src", "lib",
      "app", "public"]) : BeginsPlain text := by
  have hhead : ∃ c rest, text.toList = c :: rest ∧
      c ∈ ['t', 'a', 's', 'p', 'l', 'm'] := by
    simp only [List.mem_cons, List.not_mem_nil, or_false] at hmem
    rcases hmem with rfl | rfl | rfl | rfl | rfl | rfl | rfl | rfl | rfl | rfl <;>
      exact ⟨_, _, rfl, by decide⟩
  obtain ⟨c, rest, htext, hc⟩ := hhead
  have hletters : ['t', 'a', 's', 'p', 'l', 'm'].all
      (fun c => !isSpace c && c != '\\' && c != '/' && c != '.') = true := by
    decide
  have hletter := List.all_eq_true.mp hletters c hc
  simp only [Bool.and_eq_true, Bool.not_eq_true', bne_iff_ne, and_assoc] at hletter
  exact ⟨c, rest, htext, hletter⟩

theorem beginsPlain_of_located {workspace : PackageJsonWorkspace} (hloaded : workspace.Loaded)
    {package : PackageJsonWorkspacePackage} (hpackage : package ∈ workspace.packages)
    (hlies : workspace.LiesIn PackageJsonWorkspace.componentSegments package)
    {candidate : String} (hcandidate : BeginsPlain candidate) :
    BeginsPlain (FileTree.posixText
      (package.packageDir.drop workspace.repositoryRoot.length ++ [candidate])) := by
  have hroot := root_prefix_of_liesIn hlies
  obtain ⟨relative, hrelative, hsegment⟩ := hlies
  rw [PackageJsonWorkspace.repositoryRelPath, relativePosix_of_below hroot,
    Except.ok.injEq] at hrelative
  have hnames : ∀ name ∈ package.packageDir.drop workspace.repositoryRoot.length,
      '/' ∉ name.toList ∧ name ≠ "." := by
    intro name hname
    exact hloaded.names package hpackage name (List.mem_of_mem_drop hname)
  generalize package.packageDir.drop workspace.repositoryRoot.length = below at hrelative hnames
  cases below with
  | nil => simpa [FileTree.posixText, join] using hcandidate
  | cons first rest =>
      have hjoin : relative = join "/" (first :: rest) := by
        rw [← hrelative]
        simp [FileTree.posixText]
      have hpieces : pieces relative = first :: rest := by
        rw [hjoin]
        exact pieces_join (by simp) fun name hname => (hnames name hname).1
      have hfirst : BeginsPlain first := by
        rw [rootSegment, hpieces, List.headD_cons] at hsegment
        have hdot := (hnames first List.mem_cons_self).2
        apply beginsPlain_of_mem
        simp only [PackageJsonWorkspace.componentSegments, List.mem_cons, hdot,
          List.not_mem_nil, or_false, false_or] at hsegment ⊢
        tauto
      have htext : ∃ text, FileTree.posixText (first :: rest ++ [candidate]) = first ++ text := by
        cases rest with
        | nil => exact ⟨"/" ++ candidate, by simp [FileTree.posixText, join, String.append_assoc]⟩
        | cons next rest =>
            exact ⟨"/" ++ join "/" (next :: rest ++ [candidate]), by
              simp [FileTree.posixText, join, String.append_assoc]⟩
      obtain ⟨text, htext⟩ := htext
      rw [htext]
      exact hfirst.append text

/-! ## Packages and components -/

section Packages

variable {npm : NpmAttachment} {package : PackageJsonWorkspacePackage}

theorem exists_packageName (hsupported : npm.workspace.Supported)
    (hpackage : package ∈ npm.workspace.packages) :
    ∃ name, PackageJsonWorkspace.packageName package = .ok name := by
  obtain ⟨name, hname⟩ := hsupported.named package hpackage
  exact ⟨name, by simp [PackageJsonWorkspace.packageName, hname]⟩

theorem exists_packageNames (hsupported : npm.workspace.Supported) :
    ∃ names, npm.workspace.packageNames = .ok names := by
  unfold PackageJsonWorkspace.packageNames
  rw [exists_mapM_iff]
  intro package hpackage
  exact exists_packageName hsupported hpackage

theorem exists_repositoryRelPath (hsupported : npm.workspace.Supported)
    (hpackage : package ∈ npm.workspace.packages) :
    ∃ relative, npm.workspace.repositoryRelPath package = .ok relative := by
  obtain ⟨relative, hrelative, -⟩ := hsupported.located package hpackage
  exact ⟨relative, hrelative⟩

theorem exists_packageJsonRelPath (hsupported : npm.workspace.Supported)
    (hloaded : npm.workspace.Loaded) (hpackage : package ∈ npm.workspace.packages) :
    ∃ relative, npm.workspace.packageJsonRelPath package = .ok relative := by
  have hroot := root_prefix_of_liesIn (hsupported.located package hpackage)
  unfold PackageJsonWorkspace.packageJsonRelPath
  rw [exists_relativePosix_iff, hloaded.manifests package hpackage]
  exact hroot.trans (List.prefix_append _ _)

theorem exists_detectDirectories (hloaded : npm.workspace.Loaded)
    (hpackage : package ∈ npm.workspace.packages)
    (hlies : npm.workspace.LiesIn PackageJsonWorkspace.componentSegments package)
    (candidates : List String) (hplain : ∀ candidate ∈ candidates, BeginsPlain candidate) :
    ∃ found, detectDirectories npm.tree npm.workspace package candidates = .ok found := by
  have hroot := root_prefix_of_liesIn hlies
  unfold detectDirectories
  have hfound : ∃ found, (candidates.filter fun candidate =>
      npm.tree.isDirectory (package.packageDir ++ [candidate])).mapM (fun candidate => do
        let relative ←
          relativePosix npm.workspace.repositoryRoot (package.packageDir ++ [candidate])
        normalizeRepositoryRelativePath relative) = .ok found := by
    rw [exists_mapM_iff]
    intro candidate hcandidate
    have hbegins := hplain candidate (List.mem_filter.mp hcandidate).1
    rw [relativePosix_of_below (hroot.trans (List.prefix_append _ _)), ok_bind,
      List.drop_append_of_le_length hroot.length_le]
    exact exists_normalized (beginsPlain_of_located hloaded hpackage hlies hbegins)
  obtain ⟨found, hfound⟩ := hfound
  rw [hfound, ok_bind]
  exact ⟨_, rfl⟩

theorem exists_existingPath_iff {entry : String} :
    (∃ paths, existingPath npm.tree npm.workspace package entry = .ok paths) ↔
      (npm.tree.pathExists (FileTree.joined package.packageDir entry) = true →
        rootOf entry ≠ "//" ∧
          npm.workspace.repositoryRoot <+: FileTree.joined package.packageDir entry) := by
  unfold existingPath
  by_cases hexists : npm.tree.pathExists (FileTree.joined package.packageDir entry) = true
  · by_cases hdouble : rootOf entry = "//"
    · simp [hexists, hdouble]
    · simp only [hexists, hdouble, ← exists_relativePosix_iff, Bool.not_true,
        Bool.false_eq_true, if_false, bind_eq_ok, pure_eq_ok, ne_eq, not_false_eq_true,
        true_and, true_imp_iff]
      constructor
      · intro hpaths
        obtain ⟨paths, relative, hrelative, -⟩ := hpaths
        exact ⟨relative, hrelative⟩
      · intro hrelative
        obtain ⟨relative, hrelative⟩ := hrelative
        exact ⟨[relative], relative, hrelative, rfl⟩
  · simp [hexists]

theorem exists_detectArtifactPaths_iff
    (hroot : npm.workspace.repositoryRoot <+: package.packageDir) :
    (∃ paths, detectArtifactPaths npm.tree npm.workspace package = .ok paths) ↔
      npm.EntriesInside package := by
  have hdirectories : ∃ found, (artifactDirCandidates.filter fun candidate =>
      npm.tree.pathExists (package.packageDir ++ [candidate])).mapM (fun candidate =>
        relativePosix npm.workspace.repositoryRoot (package.packageDir ++ [candidate])) =
          .ok found := by
    rw [exists_mapM_iff]
    intro candidate _
    exact exists_relativePosix_iff.mpr (hroot.trans (List.prefix_append _ _))
  obtain ⟨directories, hdirectories⟩ := hdirectories
  have hentries : (∃ found, (manifestEntries package.manifest).mapM
      (existingPath npm.tree npm.workspace package) = .ok found) ↔
        npm.EntriesInside package := by
    rw [exists_mapM_iff]
    apply forall₂_congr
    intro entry _
    exact exists_existingPath_iff
  rw [← hentries]
  unfold detectArtifactPaths
  rw [hdirectories, ok_bind]
  exact exists_bind_pure_iff

theorem exists_componentKindFor (packageDir : List String) {segment : String}
    (hsegment : segment ∈ PackageJsonWorkspace.componentSegments) :
    ∃ kind, componentKindFor packageDir segment = .ok kind := by
  simp only [PackageJsonWorkspace.componentSegments, List.mem_cons, List.not_mem_nil,
    or_false] at hsegment
  unfold componentKindFor
  rcases hsegment with rfl | rfl | rfl | rfl | rfl | rfl | rfl <;> exact ⟨_, rfl⟩

theorem exists_buildPackageAnalysis_iff (hsupported : npm.workspace.Supported)
    (hloaded : npm.workspace.Loaded) (hpackage : package ∈ npm.workspace.packages)
    (hlies : npm.workspace.LiesIn PackageJsonWorkspace.componentSegments package)
    (names : List String) :
    (∃ analysis, buildPackageAnalysis npm.tree npm.workspace names package = .ok analysis) ↔
      npm.EntriesInside package := by
  rw [← exists_detectArtifactPaths_iff (root_prefix_of_liesIn hlies)]
  constructor
  · intro hanalysis
    obtain ⟨analysis, hanalysis⟩ := hanalysis
    simp only [buildPackageAnalysis, bind_eq_ok, pure_eq_ok] at hanalysis
    obtain ⟨-, -, -, -, -, -, -, -, -, -, -, -, paths, hpaths, -⟩ := hanalysis
    exact ⟨paths, hpaths⟩
  · intro hpaths
    obtain ⟨paths, hpaths⟩ := hpaths
    obtain ⟨name, hname⟩ := exists_packageName hsupported hpackage
    obtain ⟨manifestPath, hmanifest⟩ := exists_packageJsonRelPath hsupported hloaded hpackage
    obtain ⟨roots, hroots⟩ := exists_detectDirectories hloaded hpackage hlies
      sourceDirCandidates fun candidate hcandidate => beginsPlain_of_mem (by
        simp only [sourceDirCandidates, List.mem_cons, List.not_mem_nil, or_false] at hcandidate ⊢
        tauto)
    obtain ⟨owned, howned⟩ := exists_detectDirectories hloaded hpackage hlies
      packageOwnedDirCandidates fun candidate hcandidate => beginsPlain_of_mem (by
        simp only [packageOwnedDirCandidates, List.mem_cons, List.not_mem_nil,
          or_false] at hcandidate ⊢
        tauto)
    obtain ⟨relative, hrelative, hsegment⟩ := hlies
    obtain ⟨kind, hkind⟩ := exists_componentKindFor package.packageDir hsegment
    simp only [buildPackageAnalysis, detectSourceRoots, detectPackageOwnedPaths, hname, hrelative,
      hmanifest, hkind, hroots, howned, hpaths, ok_bind]
    exact ⟨_, rfl⟩

theorem analyzePackage_of_aggregator (names : List String)
    (hlies : npm.workspace.LiesIn ["aggregators"] package) :
    analyzePackage npm.tree npm.workspace names package = .ok none := by
  obtain ⟨relative, hrelative, hsegment⟩ := hlies
  rw [List.mem_singleton] at hsegment
  simp only [analyzePackage, hrelative, ok_bind, classify, hsegment, if_true]
  rfl

theorem classify_component {packageDir : List String} {segment : String}
    (hsegment : segment ∈ PackageJsonWorkspace.componentSegments) :
    classify packageDir segment = .ok .component := by
  have haggregator : segment ≠ "aggregators" := by
    rintro rfl
    simp [PackageJsonWorkspace.componentSegments] at hsegment
  unfold classify
  rw [if_neg haggregator]
  exact if_pos hsegment

theorem exists_analyzePackage_iff (hsupported : npm.workspace.Supported)
    (hloaded : npm.workspace.Loaded) (hpackage : package ∈ npm.workspace.packages)
    (names : List String) :
    (∃ found, analyzePackage npm.tree npm.workspace names package = .ok found) ↔
      (npm.workspace.LiesIn PackageJsonWorkspace.componentSegments package →
        npm.EntriesInside package) := by
  cases NpmAttachment.located_cases hsupported hpackage with
  | inr haggregator =>
      rw [analyzePackage_of_aggregator names haggregator]
      constructor
      · intro _ hcomponent
        exact (LiesIn.not_both hcomponent haggregator).elim
      · intro _
        exact ⟨none, rfl⟩
  | inl hcomponent =>
      rw [forall_prop_of_true hcomponent,
        ← exists_buildPackageAnalysis_iff hsupported hloaded hpackage hcomponent names]
      obtain ⟨relative, hrelative, hsegment⟩ := hcomponent
      simp only [analyzePackage, hrelative, ok_bind, classify_component hsegment]
      exact exists_bind_pure_iff

theorem exists_analyzeComponents_iff (hsupported : npm.workspace.Supported)
    (hloaded : npm.workspace.Loaded) :
    (∃ analyses, analyzeComponents npm.tree npm.workspace = .ok analyses) ↔
      ∀ package ∈ npm.workspace.packages,
        npm.workspace.LiesIn PackageJsonWorkspace.componentSegments package →
          npm.EntriesInside package := by
  obtain ⟨names, hnames⟩ := exists_packageNames hsupported
  have hpackages : (∃ found, npm.workspace.packages.mapM
      (analyzePackage npm.tree npm.workspace names) = .ok found) ↔
        ∀ package ∈ npm.workspace.packages,
          npm.workspace.LiesIn PackageJsonWorkspace.componentSegments package →
            npm.EntriesInside package := by
    rw [exists_mapM_iff]
    apply forall₂_congr
    intro package hpackage
    exact exists_analyzePackage_iff hsupported hloaded hpackage names
  rw [← hpackages]
  simp only [analyzeComponents, hnames, ok_bind]
  exact exists_bind_pure_iff

/-! ## Aggregators and package managers -/

theorem exists_analyzeAggregators (hsupported : npm.workspace.Supported)
    (hloaded : npm.workspace.Loaded) :
    ∃ analyses, analyzeAggregators npm.workspace = .ok analyses := by
  obtain ⟨names, hnames⟩ := exists_packageNames hsupported
  have hfound : ∃ found,
      npm.workspace.packages.mapM (analyzeAggregator npm.workspace) = .ok found := by
    rw [exists_mapM_iff]
    intro package hpackage
    obtain ⟨name, hname⟩ := exists_packageName hsupported hpackage
    obtain ⟨manifestPath, hmanifest⟩ := exists_packageJsonRelPath hsupported hloaded hpackage
    cases NpmAttachment.located_cases hsupported hpackage with
    | inl hcomponent =>
        obtain ⟨relative, hrelative, hsegment⟩ := hcomponent
        simp only [analyzeAggregator, hrelative, ok_bind, classify_component hsegment]
        exact ⟨none, rfl⟩
    | inr haggregator =>
        obtain ⟨relative, hrelative, hsegment⟩ := haggregator
        rw [List.mem_singleton] at hsegment
        simp only [analyzeAggregator, hrelative, ok_bind, classify, hsegment, if_true, hname,
          hmanifest]
        exact ⟨_, rfl⟩
  obtain ⟨found, hfound⟩ := hfound
  simp only [analyzeAggregators, hnames, ok_bind, hfound]
  exact ⟨_, rfl⟩

theorem exists_analyzePackageManagers (hsupported : npm.workspace.Supported) :
    ∃ analyses, analyzePackageManagers npm.tree npm.workspace = .ok analyses := by
  obtain ⟨names, hnames⟩ := exists_packageNames hsupported
  simp only [analyzePackageManagers, hnames, ok_bind]
  split <;> exact ⟨_, rfl⟩

/-! ## Runners -/

theorem exists_inspectScripts (hsupported : npm.workspace.Supported)
    (hpackage : package ∈ npm.workspace.packages) :
    ∃ name relative, inspectScripts npm.tree npm.workspace package =
      .ok ((scriptItems package.manifest).filterMap fun script =>
        inspectCommand npm.tree package.packageDir name relative script.1 script.2) := by
  obtain ⟨name, hname⟩ := exists_packageName hsupported hpackage
  obtain ⟨relative, hrelative⟩ := exists_repositoryRelPath hsupported hpackage
  use name, relative
  simp only [inspectScripts, hname, hrelative, ok_bind]
  rfl

theorem inspectCommand_of_starts (tree : FileTree) (packageDir : List String)
    (packageName packagePath scriptName : String) (hstarts : StartsExecutable command) :
    ∃ analysis, inspectCommand tree packageDir packageName packagePath scriptName command =
        some analysis ∧
      analysis.referencedFiles = referencedFiles tree packageDir (strip command) := by
  unfold inspectCommand
  simp only [hstarts.1, hstarts.2, if_false, Bool.not_true, Bool.false_eq_true,
    Option.some.injEq, exists_eq_left']

theorem starts_of_inspectCommand {tree : FileTree} {packageDir : List String}
    {packageName scriptName : String} {analysis : NpmRunnerAnalysis}
    (hsome : inspectCommand tree packageDir packageName packagePath scriptName command =
      some analysis) :
    StartsExecutable command ∧
      analysis.referencedFiles = referencedFiles tree packageDir (strip command) := by
  unfold inspectCommand at hsome
  by_cases hempty : strip command = ""
  · simp [hempty] at hsome
  · cases hstarts : (tokenizedSegments (strip command)).any isExternalExecutableSegment with
    | false => simp [hempty, hstarts] at hsome
    | true =>
        simp only [hempty, hstarts, if_false, Bool.not_true, Bool.false_eq_true,
          Option.some.injEq] at hsome
        constructor
        · exact ⟨hempty, hstarts⟩
        · rw [← hsome]

theorem exists_runnerFiles_of_iff {analysis : NpmRunnerAnalysis} :
    (∃ named, npm.runnerFiles analysis = .ok named) ↔
      ∀ file ∈ analysis.referencedFiles, npm.workspace.repositoryRoot <+: file := by
  simp only [← exists_relativePosix_iff, ← exists_mapM_iff]
  unfold NpmAttachment.runnerFiles
  exact exists_bind_pure_iff

theorem scriptsInside_iff {name relative : String} :
    (∀ analysis ∈ (scriptItems package.manifest).filterMap (fun script =>
        inspectCommand npm.tree package.packageDir name relative script.1 script.2),
      ∀ file ∈ analysis.referencedFiles, npm.workspace.repositoryRoot <+: file) ↔
      npm.ScriptsInside package := by
  constructor
  · intro hall script hscript hstarts file hfile
    obtain ⟨analysis, hsome, hfiles⟩ := inspectCommand_of_starts npm.tree package.packageDir name
      relative script.1 hstarts
    have hitem : script ∈ scriptItems package.manifest := by
      rw [scriptItems, mem_sortedBy]
      exact hscript
    rw [← hfiles] at hfile
    exact hall analysis (List.mem_filterMap.mpr ⟨script, hitem, hsome⟩) file hfile
  · intro hinside analysis hanalysis
    obtain ⟨script, hscript, hsome⟩ := List.mem_filterMap.mp hanalysis
    rw [scriptItems, mem_sortedBy] at hscript
    obtain ⟨hstarts, hfiles⟩ := starts_of_inspectCommand hsome
    rw [hfiles]
    exact hinside script hscript hstarts

theorem exists_runnerFiles_iff (hsupported : npm.workspace.Supported) :
    (∃ runners files, analyzeRunners npm.tree npm.workspace = .ok runners ∧
        runners.mapM npm.runnerFiles = .ok files) ↔
      ∀ package ∈ npm.workspace.packages, npm.ScriptsInside package := by
  have hrunners : ∃ found,
      npm.workspace.packages.mapM (inspectScripts npm.tree npm.workspace) = .ok found := by
    rw [exists_mapM_iff]
    intro package hpackage
    obtain ⟨name, relative, hscripts⟩ := exists_inspectScripts hsupported hpackage
    exact ⟨_, hscripts⟩
  obtain ⟨found, hfound⟩ := hrunners
  have hanalyses : analyzeRunners npm.tree npm.workspace =
      .ok (sortedBy npmRunnerSortKey found.flatten) := by
    simp only [analyzeRunners, hfound, ok_bind]
    rfl
  have hfiles : (∃ runners files, analyzeRunners npm.tree npm.workspace = .ok runners ∧
      runners.mapM npm.runnerFiles = .ok files) ↔
        ∀ analysis ∈ found.flatten, ∀ file ∈ analysis.referencedFiles,
          npm.workspace.repositoryRoot <+: file := by
    simp only [hanalyses, Except.ok.injEq, exists_and_left, exists_eq_left', exists_mapM_iff,
      mem_sortedBy, exists_runnerFiles_of_iff]
  rw [hfiles]
  constructor
  · intro hall package hpackage
    obtain ⟨name, relative, hscripts⟩ := exists_inspectScripts hsupported hpackage
    obtain ⟨analyses, hmem, houtput⟩ := exists_output_of_mem hfound hpackage
    rw [hscripts, Except.ok.injEq] at houtput
    rw [← scriptsInside_iff, houtput]
    intro analysis hanalysis
    exact hall analysis (List.mem_flatten.mpr ⟨analyses, hmem, hanalysis⟩)
  · intro hinside analysis hanalysis
    obtain ⟨analyses, hmem, hanalysis⟩ := List.mem_flatten.mp hanalysis
    obtain ⟨package, hpackage, houtput⟩ := exists_input_of_mem hfound hmem
    obtain ⟨name, relative, hscripts⟩ := exists_inspectScripts hsupported hpackage
    rw [hscripts, Except.ok.injEq] at houtput
    rw [← houtput] at hanalysis
    exact scriptsInside_iff.mpr (hinside package hpackage) analysis hanalysis

/-! ## Tests -/

theorem exists_discoverTestFiles
    (hroot : npm.workspace.repositoryRoot <+: package.packageDir) :
    ∃ files, discoverTestFiles npm.tree npm.workspace package = .ok files := by
  have hfound : ∃ found, ((npm.tree.filesBelow package.packageDir).filter fun path =>
      matchesTestPattern (path.getLastD "")).mapM
        (relativePosix npm.workspace.repositoryRoot) = .ok found := by
    rw [exists_mapM_iff]
    intro path hpath
    have hbelow : package.packageDir <+: path := by
      have hmem := (List.mem_filter.mp hpath).1
      unfold FileTree.filesBelow at hmem
      cases hreal : npm.tree.resolve package.packageDir with
      | none => simp [hreal] at hmem
      | some real =>
          simp only [hreal, List.mem_filterMap, Option.ite_none_right_eq_some,
            Option.some.injEq] at hmem
          obtain ⟨entry, -, -, rfl⟩ := hmem
          exact List.prefix_append _ _
    exact exists_relativePosix_iff.mpr (hroot.trans hbelow)
  obtain ⟨found, hfound⟩ := hfound
  simp only [discoverTestFiles, hfound, ok_bind]
  exact ⟨_, rfl⟩

theorem exists_listedTestFile_iff {tree : FileTree} {packagePath : List String}
    {packageRoot line : String} :
    (∃ path, listedTestFile tree root packagePath tool packageRoot line = .ok path) ↔
      ∃ file, listedPath tree packagePath line = some file ∧ tree.isFile file = true ∧
        root <+: file := by
  have hsome : ∀ file, ((listedPath tree packagePath line).filter fun path =>
      tree.isFile path) = some file ↔
        listedPath tree packagePath line = some file ∧ tree.isFile file = true := by
    intro file
    exact Option.filter_eq_some_iff
  have hcandidate : (if rootOf line = "" then tree.resolve (packagePath ++ segments line)
      else some (segments line)) = listedPath tree packagePath line := rfl
  simp only [listedTestFile]
  rw [hcandidate]
  cases hfile : (listedPath tree packagePath line).filter fun path => tree.isFile path with
  | none =>
      simp only [raiseValueError_ne_ok, exists_false, false_iff]
      intro hexists
      obtain ⟨file, hlisted, hisfile, -⟩ := hexists
      rw [(hsome file).mpr ⟨hlisted, hisfile⟩] at hfile
      cases hfile
  | some file =>
      have hlisted := (hsome file).mp hfile
      simp only [exists_relativePosix_iff]
      constructor
      · intro hroot
        exact ⟨file, hlisted.1, hlisted.2, hroot⟩
      · intro hexists
        obtain ⟨other, hother, -, hroot⟩ := hexists
        rw [hlisted.1, Option.some.injEq] at hother
        rw [hother]
        exact hroot

theorem exists_listTestFiles_iff {listing : String → PyResult (List String)} :
    (∃ files, listTestFiles npm.tree npm.workspace.repositoryRoot tool listing packagePath =
        .ok files) ↔ npm.ListsInside listing packagePath := by
  have hfiles : ∀ lines : List String, (∃ files : List String,
      ((lines.map strip).filter fun line => line ≠ "").mapM
        (listedTestFile npm.tree npm.workspace.repositoryRoot
          ((npm.tree.resolve
            (FileTree.joined npm.workspace.repositoryRoot packagePath)).getD [])
          tool packagePath) = .ok files) ↔
      ∀ line ∈ lines, strip line ≠ "" →
        ∃ file, listedPath npm.tree
            ((npm.tree.resolve
              (FileTree.joined npm.workspace.repositoryRoot packagePath)).getD [])
            (strip line) = some file ∧
          npm.tree.isFile file = true ∧ npm.workspace.repositoryRoot <+: file := by
    intro lines
    simp only [exists_mapM_iff, exists_listedTestFile_iff, List.mem_filter, List.mem_map,
      decide_eq_true_eq]
    constructor
    · intro hall line hline hne
      exact hall (strip line) ⟨⟨line, hline, rfl⟩, hne⟩
    · intro hall text htext
      obtain ⟨⟨line, hline, rfl⟩, hne⟩ := htext
      exact hall line hline hne
  unfold listTestFiles NpmAttachment.ListsInside
  constructor
  · intro hrun
    obtain ⟨files, hrun⟩ := hrun
    obtain ⟨lines, hlines, hrun⟩ := bind_eq_ok.mp hrun
    obtain ⟨found, hfound, -⟩ := bind_eq_ok.mp hrun
    exact ⟨lines, hlines, (hfiles lines).mp ⟨found, hfound⟩⟩
  · intro hlines
    obtain ⟨lines, hlines, hall⟩ := hlines
    obtain ⟨found, hfound⟩ := (hfiles lines).mpr hall
    simp only [hlines, ok_bind, hfound]
    exact ⟨_, rfl⟩

theorem exists_read_iff {listing : String → PyResult (List String)} {method : TestDiscoveryMethod}
    {name : Option String} :
    (∃ found : List String × TestDiscoveryMethod × Option String, (do
        let files ←
          listTestFiles npm.tree npm.workspace.repositoryRoot tool listing packagePath
        pure (files, method, name)) = .ok found) ↔ npm.ListsInside listing packagePath := by
  rw [exists_bind_pure_iff]
  exact exists_listTestFiles_iff

theorem exists_discoverPackageTests_iff
    (hroot : npm.workspace.repositoryRoot <+: package.packageDir) :
    (∃ found, discoverPackageTests npm.tree npm.tools npm.workspace package packagePath
        command = .ok found) ↔
      ∀ listing, usedListing npm.tools command = some listing →
        npm.ListsInside listing packagePath := by
  obtain ⟨globbed, hglobbed⟩ := exists_discoverTestFiles hroot
  unfold discoverPackageTests usedListing
  cases hjest : containsText (lowerText command) "jest" with
  | true =>
      simp only [if_true]
      cases hlisting : npm.tools.jest with
      | none => simp [hglobbed]
      | some listing =>
          simp only [Option.some.injEq, forall_eq']
          exact exists_read_iff
  | false =>
      simp only [Bool.false_eq_true, if_false]
      cases hvitest : containsText (lowerText command) "vitest" with
      | true =>
          simp only [if_true]
          cases hlisting : npm.tools.vitest with
          | none => simp [hglobbed]
          | some listing =>
              simp only [Option.some.injEq, forall_eq']
              exact exists_read_iff
      | false => simp [hglobbed]

theorem exists_discoverTest_iff (hsupported : npm.workspace.Supported)
    (hpackage : package ∈ npm.workspace.packages) :
    (∃ found, discoverTest npm.tree npm.tools npm.workspace package = .ok found) ↔
      npm.ListingInside package := by
  obtain ⟨name, hname⟩ := exists_packageName hsupported hpackage
  obtain ⟨relative, hrelative⟩ := exists_repositoryRelPath hsupported hpackage
  have hroot := root_prefix_of_liesIn (hsupported.located package hpackage)
  unfold NpmAttachment.ListingInside
  simp only [discoverTest, hname, ok_bind]
  cases hscript : resolveTestScript package.manifest with
  | none =>
      simp only [reduceCtorEq, false_imp_iff, implies_true, iff_true]
      exact ⟨none, rfl⟩
  | some script =>
      simp only [hrelative, ok_bind, Option.some.injEq, forall_eq', Except.ok.injEq,
        ← exists_discoverPackageTests_iff hroot]
      exact exists_bind_pure_iff

theorem exists_analyzeTests_iff (hsupported : npm.workspace.Supported) :
    (∃ analyses, analyzeTests npm.tree npm.tools npm.workspace = .ok analyses) ↔
      ∀ package ∈ npm.workspace.packages, npm.ListingInside package := by
  have hpackages : (∃ found, npm.workspace.packages.mapM
      (discoverTest npm.tree npm.tools npm.workspace) = .ok found) ↔
        ∀ package ∈ npm.workspace.packages, npm.ListingInside package := by
    rw [exists_mapM_iff]
    apply forall₂_congr
    intro package hpackage
    exact exists_discoverTest_iff hsupported hpackage
  rw [← hpackages]
  unfold analyzeTests
  exact exists_bind_pure_iff

end Packages

/-! ## The whole inventory -/

theorem exists_claims_iff {npm : NpmAttachment} (hsupported : npm.workspace.Supported)
    (hloaded : npm.workspace.Loaded) :
    (∃ claims, npm.claims = .ok claims) ↔
      (∀ package ∈ npm.workspace.packages,
        npm.workspace.LiesIn PackageJsonWorkspace.componentSegments package →
          npm.EntriesInside package) ∧
      (∀ package ∈ npm.workspace.packages, npm.ScriptsInside package) ∧
        ∀ package ∈ npm.workspace.packages, npm.ListingInside package := by
  obtain ⟨aggregators, haggregators⟩ := exists_analyzeAggregators hsupported hloaded
  obtain ⟨managers, hmanagers⟩ := exists_analyzePackageManagers hsupported
  rw [← exists_analyzeComponents_iff hsupported hloaded, ← exists_runnerFiles_iff hsupported,
    ← exists_analyzeTests_iff hsupported]
  unfold NpmAttachment.claims
  constructor
  · intro hclaims
    obtain ⟨claims, hclaims⟩ := hclaims
    simp only [bind_eq_ok] at hclaims
    obtain ⟨components, hcomponents, -, -, runners, hrunners, tests, htests, -, -, files, hfiles,
      -⟩ := hclaims
    exact ⟨⟨components, hcomponents⟩, ⟨runners, files, hrunners, hfiles⟩, tests, htests⟩
  · intro hfound
    obtain ⟨⟨components, hcomponents⟩, ⟨runners, files, hrunners, hfiles⟩, tests, htests⟩ := hfound
    simp only [hcomponents, haggregators, hrunners, htests, hmanagers, hfiles, ok_bind]
    exact ⟨_, rfl⟩

/-- The files of a supported workspace are assigned to their best owners exactly where
nothing leads out of the repository and the best claims agree. -/
theorem analyzeFiles_assignsBest_iff {φ : Type} {npm : NpmAttachment}
    (hsupported : npm.workspace.Supported) (hloaded : npm.workspace.Loaded)
    (fileOf : String → φ) :
    (npm.analyzeFiles.Yields fun items =>
        ∃ claims, npm.claims = .ok claims ∧ AssignsBest fileOf claims items) ↔
      npm.Openable fileOf := by
  rw [NpmAttachment.analyzeFiles_yields_iff]
  constructor
  · intro hclaims
    obtain ⟨claims, hclaims, hsettled⟩ := hclaims
    obtain ⟨hentries, hscripts, hlistings⟩ :=
      (exists_claims_iff hsupported hloaded).mp ⟨claims, hclaims⟩
    constructor
    case entries => exact hentries
    case scripts => exact hscripts
    case listings => exact hlistings
    case settled =>
      intro other hother
      rw [hclaims, Except.ok.injEq] at hother
      rw [← hother]
      exact hsettled
  · intro hopenable
    obtain ⟨claims, hclaims⟩ := (exists_claims_iff hsupported hloaded).mpr
      ⟨hopenable.entries, hopenable.scripts, hopenable.listings⟩
    exact ⟨claims, hclaims, hopenable.settled claims hclaims⟩

/-! ## Not every workspace is opened -/

namespace InventorySample

/-- A package with a script, beside a file outside the repository. -/
def tree : FileTree :=
  { entries :=
      [(["w"], .directory), (["w", "apps"], .directory), (["w", "apps", "web"], .directory),
        (["w", "apps", "web", "package.json"], .file), (["w", "apps", "web", "gen.js"], .file),
        (["tools"], .directory), (["tools", "gen.js"], .file)]
    linkLimit := 40 }

def package (script : String) : PackageJsonWorkspacePackage :=
  { packageDir := ["w", "apps", "web"]
    manifest :=
      { path := ["w", "apps", "web", "package.json"]
        name := some "web"
        scripts := { entries := [("gen", script)], names_nodup := by simp } } }

def attachment (script : String) : NpmAttachment :=
  { tree := tree
    workspace :=
      { repositoryRoot := ["w"]
        rootManifest := { path := ["w", "package.json"], name := some "root" }
        packages := [package script] }
    rootRelPath := "." }

theorem supported (script : String) : (attachment script).workspace.Supported := by
  constructor
  case named =>
    intro listed hlisted
    rw [List.mem_singleton.mp hlisted]
    exact ⟨"web", rfl⟩
  case names_nodup => simp [attachment]
  case located =>
    intro listed hlisted
    rw [List.mem_singleton.mp hlisted]
    exact ⟨"apps/web", rfl, by decide⟩

theorem loaded (script : String) : (attachment script).workspace.Loaded := by
  constructor
  case manifests =>
    intro listed hlisted
    rw [List.mem_singleton.mp hlisted]
    rfl
  case names =>
    intro listed hlisted
    rw [List.mem_singleton.mp hlisted]
    change ∀ name ∈ ["w", "apps", "web"], '/' ∉ name.toList ∧ name ≠ "."
    decide

end InventorySample

/-- The files of a package whose script runs a file outside the repository are not
listed. -/
theorem analyzeFiles_not_always_assigned :
    ¬ ∀ npm : NpmAttachment, npm.workspace.Supported → npm.workspace.Loaded →
      npm.analyzeFiles.Yields fun items =>
        ∃ claims, npm.claims = .ok claims ∧ AssignsBest id claims items := by
  intro halways
  obtain ⟨items, hitems, -⟩ := (halways (InventorySample.attachment "node ../../../tools/gen.js")
    (InventorySample.supported _) (InventorySample.loaded _)).exists_ok
  have hraises : (InventorySample.attachment "node ../../../tools/gen.js").analyzeFiles =
      raiseValueError "'/tools/gen.js' is not in the subpath of '/w'" := by
    decide +kernel
  rw [hraises] at hitems
  exact raiseValueError_ne_ok hitems

/-- The characterization at a package whose script runs a file of its own. -/
theorem analyzeFiles_assignsBest_iff_ownScript :
    ((InventorySample.attachment "node gen.js").analyzeFiles.Yields fun items =>
        ∃ claims, (InventorySample.attachment "node gen.js").claims = .ok claims ∧
          AssignsBest id claims items) ↔
      (InventorySample.attachment "node gen.js").Openable id :=
  analyzeFiles_assignsBest_iff (InventorySample.supported _) (InventorySample.loaded _) id

end SuitCode
