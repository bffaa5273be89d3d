import SuitCode.NpmWorkspace
import SuitCode.OwnershipFacts
import SuitCode.ChangeSetCoherence

/-!
# Source files and artifact members

Three places ask whether a file of a component is an artifact.  The change-set
service asks the source roots first, the quality service asks the artifact
paths first, and the repository summary asks the paths of all components.
They agree on a file exactly where these path sets do not overlap.
-/

namespace SuitCode

open PosixText KeyedList ExceptList Repository

/-! ## The repository summary -/

/-- `path.strip().strip("/").replace("\\", "/")`. -/
def summaryText (path : String) : String :=
  replaceChar '\\' '/' (stripSlashes (strip path))

def summaryPrefixes (paths : List String) : List String :=
  sortedBy id (dedupeBy id ((paths.map summaryText).filter fun path => path ≠ ""))

/-- The loop of `_is_summary_artifact_path` over the artifact prefixes. -/
def summaryArtifactLoop (normalized : String) (sourcePrefixes : List String) :
    List String → Bool
  | [] => false
  | artifactPrefix :: artifactPrefixes =>
      if !isAtOrBelow normalized artifactPrefix then
        summaryArtifactLoop normalized sourcePrefixes artifactPrefixes
      else
        !sourcePrefixes.any (isAtOrBelow normalized)

def isSummaryArtifactPath (repositoryRelPath : String)
    (artifactPrefixes sourcePrefixes : List String) : Bool :=
  let normalized := summaryText repositoryRelPath
  if normalized = "" then
    false
  else
    summaryArtifactLoop normalized sourcePrefixes artifactPrefixes

def summaryVisibleFiles (files : List FileInfo) (components : List Component) :
    List FileInfo :=
  let artifactPrefixes := summaryPrefixes (components.flatMap Component.artifactPaths)
  let sourcePrefixes := summaryPrefixes (components.flatMap Component.sourceRoots)
  files.filter fun fileInfo =>
    !isSummaryArtifactPath fileInfo.repositoryRelPath artifactPrefixes sourcePrefixes

/-- Some path of a component covers the file, both read as the summary does. -/
def SummaryCovers (components : List Component) (paths : Component → List String)
    (repositoryRelPath : String) : Prop :=
  ∃ component ∈ components, ∃ path ∈ paths component,
    summaryText path ≠ "" ∧
      isAtOrBelow (summaryText repositoryRelPath) (summaryText path) = true

theorem summaryArtifactLoop_eq
    (normalized : String) (sourcePrefixes artifactPrefixes : List String) :
    summaryArtifactLoop normalized sourcePrefixes artifactPrefixes =
      (artifactPrefixes.any (isAtOrBelow normalized) &&
        !sourcePrefixes.any (isAtOrBelow normalized)) := by
  induction artifactPrefixes with
  | nil => rfl
  | cons artifactPrefix artifactPrefixes ih =>
      cases hcovers : isAtOrBelow normalized artifactPrefix <;>
        simp [summaryArtifactLoop, hcovers, ih]

theorem mem_summaryPrefixes {paths : List String} {path : String} :
    path ∈ summaryPrefixes paths ↔ path ≠ "" ∧ ∃ raw ∈ paths, summaryText raw = path := by
  have hkeys : path ∈ (dedupeBy id ((paths.map summaryText).filter fun path => path ≠ "")).map id ↔
      path ∈ ((paths.map summaryText).filter fun path => path ≠ "").map id :=
    mem_map_dedupeBy_iff
  simp only [List.map_id] at hkeys
  simp only [summaryPrefixes, mem_sortedBy, hkeys]
  simp [and_comm]

theorem any_summaryPrefixes_iff
    (components : List Component) (paths : Component → List String)
    (repositoryRelPath : String) :
    (summaryPrefixes (components.flatMap paths)).any
        (isAtOrBelow (summaryText repositoryRelPath)) = true ↔
      SummaryCovers components paths repositoryRelPath := by
  simp only [List.any_eq_true, mem_summaryPrefixes, List.mem_flatMap, SummaryCovers]
  constructor
  · rintro ⟨path, ⟨hne, raw, ⟨component, hcomponent, hraw⟩, heq⟩, hcovers⟩
    subst heq
    exact ⟨component, hcomponent, raw, hraw, hne, hcovers⟩
  · rintro ⟨component, hcomponent, raw, hraw, hne, hcovers⟩
    exact ⟨summaryText raw, ⟨hne, raw, ⟨component, hcomponent, hraw⟩, rfl⟩, hcovers⟩

theorem isAtOrBelow_empty {root : String} (hcovers : isAtOrBelow "" root = true) :
    root = "" := by
  simp only [isAtOrBelow, startsWith, Bool.or_eq_true, decide_eq_true_eq] at hcovers
  cases hcovers with
  | inl heq => exact heq.symm
  | inr hprefix => simp at hprefix

theorem isSummaryArtifactPath_iff
    (components : List Component) (repositoryRelPath : String) :
    isSummaryArtifactPath repositoryRelPath
        (summaryPrefixes (components.flatMap Component.artifactPaths))
        (summaryPrefixes (components.flatMap Component.sourceRoots)) = true ↔
      SummaryCovers components Component.artifactPaths repositoryRelPath ∧
        ¬ SummaryCovers components Component.sourceRoots repositoryRelPath := by
  have hartifacts := any_summaryPrefixes_iff components Component.artifactPaths
    repositoryRelPath
  have hsources := any_summaryPrefixes_iff components Component.sourceRoots repositoryRelPath
  by_cases hempty : summaryText repositoryRelPath = ""
  · have hnone : ¬ SummaryCovers components Component.artifactPaths repositoryRelPath := by
      rintro ⟨component, -, path, -, hne, hcovers⟩
      rw [hempty] at hcovers
      exact hne (isAtOrBelow_empty hcovers)
    simp [isSummaryArtifactPath, hempty, hnone]
  · simp only [isSummaryArtifactPath, hempty, if_false, summaryArtifactLoop_eq,
      Bool.and_eq_true, Bool.not_eq_true', hartifacts]
    rw [← hsources, Bool.not_eq_true]

/-! ## The three answers -/

def holdsArtifact (component : Component) (repositoryRelPath : String) : Bool :=
  component.artifactPaths.any (isAtOrBelow (normalizedMemberPath repositoryRelPath))

def holdsSource (component : Component) (repositoryRelPath : String) : Bool :=
  component.sourceRoots.any (isAtOrBelow (normalizedMemberPath repositoryRelPath))

/-- `_is_quality_relevant_file` answers from the artifact paths of the owner. -/
def Repository.isDeniedAsArtifact (repository : Repository) (repositoryRelPath : String) :
    Bool :=
  match repository.getFileOwner repositoryRelPath with
  | .error _ => false
  | .ok fileOwner =>
      if fileOwner.owner.kind ≠ .component then
        false
      else
        match repository.getComponents.find? fun component =>
            component.id = fileOwner.owner.id with
        | none => false
        | some component => holdsArtifact component repositoryRelPath

/-- The change-set service, the quality service and the summary give one answer. -/
structure ClassifiedAlike (repository : Repository) (repositoryRelPath : String)
    (fileOwner : FileOwnerInfo) (resolved : ResolvedMinimumTarget) : Prop where
  quality :
    (repository.artifactMemberForTarget resolved).isSome =
      repository.isDeniedAsArtifact repositoryRelPath
  summary :
    (repository.artifactMemberForTarget resolved).isSome = true ↔
      fileOwner.fileInfo ∉
        summaryVisibleFiles repository.getFiles repository.getComponents

/-- The path sets do not overlap at the file. -/
structure ClassifiedApart (components : List Component) (component : Component)
    (repositoryRelPath : String) : Prop where
  ownSources :
    holdsArtifact component repositoryRelPath = true →
      holdsSource component repositoryRelPath = false
  allSources :
    holdsArtifact component repositoryRelPath = true →
      ¬ SummaryCovers components Component.sourceRoots repositoryRelPath
  sameText :
    holdsArtifact component repositoryRelPath = true →
      SummaryCovers components Component.artifactPaths repositoryRelPath
  foreignArtifacts :
    holdsArtifact component repositoryRelPath = false →
      SummaryCovers components Component.artifactPaths repositoryRelPath →
        SummaryCovers components Component.sourceRoots repositoryRelPath

theorem artifactMemberOf_isSome (component : Component) (repositoryRelPath : String) :
    (artifactMemberOf component repositoryRelPath).isSome =
      (holdsArtifact component repositoryRelPath &&
        !holdsSource component repositoryRelPath) := by
  unfold artifactMemberOf holdsArtifact holdsSource
  cases hsource : component.sourceRoots.any
      (isAtOrBelow (normalizedMemberPath repositoryRelPath)) with
  | true => simp [hsource]
  | false =>
      cases hartifact : component.artifactPaths.any
          (isAtOrBelow (normalizedMemberPath repositoryRelPath)) with
      | false =>
          have hnone : component.artifactPaths.filter
              (isAtOrBelow (normalizedMemberPath repositoryRelPath)) = [] := by
            simpa using hartifact
          simp [hsource, hnone]
      | true =>
          have hsome : component.artifactPaths.filter
              (isAtOrBelow (normalizedMemberPath repositoryRelPath)) ≠ [] := by
            simpa using hartifact
          simp only [hsource, Bool.false_eq_true, if_false, List.isEmpty_iff, hsome]
          split <;> simp

section OwnedFile

variable {repository : Repository} {component : Component} {repositoryRelPath : String}
  {fileOwner : FileOwnerInfo} {resolved : ResolvedMinimumTarget}

theorem artifactMember_isSome_of_owned
    (hcomponent : component ∈ repository.getComponents)
    (howner : repository.getFileOwner repositoryRelPath = .ok fileOwner)
    (hid : component.id = fileOwner.owner.id)
    (hresolved : repository.resolveTarget (.file repositoryRelPath) = .ok resolved) :
    (repository.artifactMemberForTarget resolved).isSome =
      (holdsArtifact component repositoryRelPath &&
        !holdsSource component repositoryRelPath) := by
  rcases Repository.getFileOwner_facts howner with ⟨index, hfacts⟩
  have hfound := hfacts.owner_component hcomponent hid
  rcases Repository.resolveTarget_file hresolved with ⟨other, hother, hkind, hsame, hpath⟩
  have heq : other = fileOwner := by
    rw [howner] at hother
    cases hother
    rfl
  subst heq
  rw [← artifactMemberOf_isSome]
  unfold Repository.artifactMemberForTarget
  rw [hkind, hpath, hsame]
  simp only [hfound.1, hfound.2, ne_eq, not_true_eq_false, if_false]

theorem isDenied_eq_of_owned
    (hcomponent : component ∈ repository.getComponents)
    (howner : repository.getFileOwner repositoryRelPath = .ok fileOwner)
    (hid : component.id = fileOwner.owner.id) :
    repository.isDeniedAsArtifact repositoryRelPath =
      holdsArtifact component repositoryRelPath := by
  rcases Repository.getFileOwner_facts howner with ⟨index, hfacts⟩
  have hfound := hfacts.owner_component hcomponent hid
  unfold Repository.isDeniedAsArtifact
  simp only [howner, hfound.1, hfound.2, ne_eq, not_true_eq_false, if_false]

theorem hidden_iff_of_owned
    (howner : repository.getFileOwner repositoryRelPath = .ok fileOwner) :
    fileOwner.fileInfo ∉
        summaryVisibleFiles repository.getFiles repository.getComponents ↔
      SummaryCovers repository.getComponents Component.artifactPaths repositoryRelPath ∧
        ¬ SummaryCovers repository.getComponents Component.sourceRoots
          repositoryRelPath := by
  rcases Repository.getFileOwner_facts howner with ⟨index, hfacts⟩
  rw [← isSummaryArtifactPath_iff, ← hfacts.path_eq]
  simp [summaryVisibleFiles, hfacts.file_mem]

/-- The three places agree on a file of a component exactly where the source
roots and the artifact paths are apart. -/
theorem classifiedAlike_iff
    (hcomponent : component ∈ repository.getComponents)
    (howner : repository.getFileOwner repositoryRelPath = .ok fileOwner)
    (hid : component.id = fileOwner.owner.id) :
    (∃ resolved, repository.resolveTarget (.file repositoryRelPath) = .ok resolved ∧
        ClassifiedAlike repository repositoryRelPath fileOwner resolved) ↔
      ClassifiedApart repository.getComponents component repositoryRelPath := by
  rcases Repository.exists_resolveTarget_of_component howner hcomponent hid with
    ⟨resolved, hresolved⟩
  have hmember := artifactMember_isSome_of_owned hcomponent howner hid hresolved
  have hdenied := isDenied_eq_of_owned hcomponent howner hid
  have hhidden := hidden_iff_of_owned howner
  constructor
  · rintro ⟨other, hother, halike⟩
    have heq : other = resolved := by
      rw [hresolved] at hother
      cases hother
      rfl
    subst heq
    have hquality := halike.quality
    have hsummary := halike.summary
    rw [hmember, hdenied] at hquality
    rw [hmember, hhidden] at hsummary
    constructor
    case ownSources =>
      intro hartifact
      simpa [hartifact] using hquality
    case allSources =>
      intro hartifact
      rw [hartifact] at hquality hsummary
      exact (hsummary.mp hquality).2
    case sameText =>
      intro hartifact
      rw [hartifact] at hquality hsummary
      exact (hsummary.mp hquality).1
    case foreignArtifacts =>
      intro hartifact hcovers
      rw [hartifact] at hsummary
      by_contra hsource
      simpa using hsummary.mpr ⟨hcovers, hsource⟩
  · intro hapart
    use resolved
    refine ⟨hresolved, ?_, ?_⟩
    · rw [hmember, hdenied]
      cases hartifact : holdsArtifact component repositoryRelPath with
      | false => rfl
      | true => simp [hapart.ownSources hartifact]
    · rw [hmember, hhidden]
      cases hartifact : holdsArtifact component repositoryRelPath with
      | false =>
          have hforeign := hapart.foreignArtifacts hartifact
          simpa using hforeign
      | true =>
          simp [hapart.ownSources hartifact, hapart.allSources hartifact,
            hapart.sameText hartifact]

end OwnedFile

/-- The three places agree on every file of every component of the analyzer. -/
def NpmClassificationAgrees : Prop :=
  ∀ (tree : FileTree) (workspace : PackageJsonWorkspace)
    (aggregators runners tests packageManagers : List NamedFiles)
    (repository : Repository) (provider : Provider) (component : Component)
    (repositoryRelPath : String) (fileOwner : FileOwnerInfo),
    provider ∈ repository.providersForRole .architecture →
      npmComponents tree workspace provider.attachmentRootRelPath =
          .ok provider.components →
        npmFiles tree workspace provider.attachmentRootRelPath aggregators runners tests
            packageManagers = .ok provider.files →
          component ∈ provider.components →
            repository.getFileOwner repositoryRelPath = .ok fileOwner →
              component.id = fileOwner.owner.id →
                ∃ resolved,
                  repository.resolveTarget (.file repositoryRelPath) = .ok resolved ∧
                    ClassifiedAlike repository repositoryRelPath fileOwner resolved

namespace Sample

/-- A package with a `lib` directory. -/
def libTree : FileTree :=
  { entries :=
      [(["w"], .directory), (["w", "lib"], .directory), (["w", "lib", "a.js"], .file),
        (["w", "package.json"], .file)]
    linkLimit := 40 }

def libManifest : PackageJsonManifest :=
  { path := ["w", "package.json"], name := some "app" }

def libWorkspace : PackageJsonWorkspace :=
  { repositoryRoot := ["w"]
    rootManifest := libManifest
    packages := [{ packageDir := ["w"], manifest := libManifest }] }

def libComponent : Component :=
  { id := "component:npm:app"
    name := "app"
    componentKind := .package
    language := .javascript
    sourceRoots := ["lib"]
    artifactPaths := ["lib"]
    provenance :=
      [⟨.authoritative, .manifest, none, "derived from npm workspace package metadata",
        ["package.json"]⟩] }

def libFile (path : String) (language : Option ProgrammingLanguage) : FileInfo :=
  { id := "file:" ++ path
    name := path
    repositoryRelPath := path
    language := language
    ownerId := "component:npm:app"
    provenance :=
      [⟨.derived, .ownership, none,
        "assigned to an owner using npm provider ownership derivation", [path]⟩] }

def libProvider : Provider :=
  { providerId := "npm"
    components := [libComponent]
    files := [libFile "lib/a.js" (some .javascript), libFile "package.json" none] }

def libRepository : Repository := repository [libProvider] [.architecture, .quality]

def libOwner : FileOwnerInfo :=
  { fileInfo := libFile "lib/a.js" (some .javascript)
    owner := ⟨"component:npm:app", .component, "app"⟩ }

end Sample

theorem libComponents_analyzed :
    npmComponents Sample.libTree Sample.libWorkspace "." = .ok [Sample.libComponent] ∧
      npmFiles Sample.libTree Sample.libWorkspace "." [] [] [] [] =
        .ok Sample.libProvider.files := by
  decide +kernel

theorem libFile_owned :
    Sample.libRepository.getFileOwner "lib/a.js" = .ok Sample.libOwner := by
  decide

theorem libFile_overlaps :
    holdsArtifact Sample.libComponent "lib/a.js" = true ∧
      holdsSource Sample.libComponent "lib/a.js" = true := by
  decide

/-- The change set of the file is that of a source file, and the file is denied its
lint and its format. -/
theorem classification_not_always_agrees : ¬ NpmClassificationAgrees := by
  intro hagrees
  have hcomponent : Sample.libComponent ∈ Sample.libRepository.getComponents := by
    decide
  rcases hagrees Sample.libTree Sample.libWorkspace [] [] [] [] Sample.libRepository
    Sample.libProvider Sample.libComponent "lib/a.js" Sample.libOwner (by simp
      [Sample.libRepository, Sample.repository, providersForRole])
    libComponents_analyzed.1 libComponents_analyzed.2 (by simp [Sample.libProvider])
    libFile_owned rfl with ⟨resolved, hresolved, halike⟩
  have hquality := halike.quality
  rw [artifactMember_isSome_of_owned hcomponent libFile_owned rfl hresolved,
    isDenied_eq_of_owned hcomponent libFile_owned rfl] at hquality
  simp [libFile_overlaps.1, libFile_overlaps.2] at hquality

/-- The characterization at the file of the `lib` directory. -/
theorem classifiedAlike_iff_libFile :
    (∃ resolved, Sample.libRepository.resolveTarget (.file "lib/a.js") = .ok resolved ∧
        ClassifiedAlike Sample.libRepository "lib/a.js" Sample.libOwner resolved) ↔
      ClassifiedApart Sample.libRepository.getComponents Sample.libComponent "lib/a.js" :=
  classifiedAlike_iff (by decide) libFile_owned rfl

end SuitCode
