import SuitCode.ArtifactClassification
import SuitCode.GoProvider
import SuitCode.Library.PathOrder

/-!
# Source files of a component and their change sets

The change-set service takes a file for an artifact when no source root of its
component shows in the text of the path.  The roots `.` and `<attachment>/.` of a Go
package in the attachment root show in no text, and the files of such a package are its
artifact paths, so that its change set has no tests and no builds.
-/

namespace SuitCode

open PosixText KeyedList ExceptList Repository

/-- The change set of the target takes up its tests and the builds of its component. -/
structure PlannedAsSource (repository : Repository) (resolved : ResolvedMinimumTarget) :
    Prop where
  member : repository.artifactMemberForTarget resolved = none
  tests :
    relatedTestsUnlessArtifact repository resolved
        (repository.artifactMemberForTarget resolved) =
      repository.relatedTestsFor resolved
  builds :
    planDirectBuilds repository resolved (repository.artifactMemberForTarget resolved) =
      repository.listBuildTargets >>= fun targets =>
        minimizeBuildTargets resolved.owner resolved.primaryComponent targets []

theorem plannedAsSource_iff {repository : Repository} {resolved : ResolvedMinimumTarget} :
    PlannedAsSource repository resolved ↔
      repository.artifactMemberForTarget resolved = none := by
  constructor
  · exact PlannedAsSource.member
  · intro hmember
    constructor
    case member => exact hmember
    case tests => simp [relatedTestsUnlessArtifact, hmember]
    case builds => simp [planDirectBuilds, hmember]

/-- The text of the path, as the change-set service reads it, begins with one of the
paths. -/
def SpelledUnderSome (paths : List String) (repositoryRelPath : String) : Prop :=
  ∃ path ∈ paths, SpelledUnder path (normalizedMemberPath repositoryRelPath)

theorem any_isAtOrBelow_iff {paths : List String} {repositoryRelPath : String} :
    paths.any (isAtOrBelow (normalizedMemberPath repositoryRelPath)) = true ↔
      SpelledUnderSome paths repositoryRelPath := by
  simp only [List.any_eq_true, isAtOrBelow_iff, SpelledUnderSome]

theorem holdsSource_iff {component : Component} {repositoryRelPath : String} :
    holdsSource component repositoryRelPath = true ↔
      SpelledUnderSome component.sourceRoots repositoryRelPath :=
  any_isAtOrBelow_iff

theorem holdsArtifact_iff {component : Component} {repositoryRelPath : String} :
    holdsArtifact component repositoryRelPath = true ↔
      SpelledUnderSome component.artifactPaths repositoryRelPath :=
  any_isAtOrBelow_iff

section OwnedFile

variable {repository : Repository} {component : Component} {repositoryRelPath : String}
  {fileOwner : FileOwnerInfo} {resolved : ResolvedMinimumTarget}

theorem artifactMember_eq_none_iff
    (hcomponent : component ∈ repository.getComponents)
    (howner : repository.getFileOwner repositoryRelPath = .ok fileOwner)
    (hid : component.id = fileOwner.owner.id)
    (hresolved : repository.resolveTarget (.file repositoryRelPath) = .ok resolved) :
    repository.artifactMemberForTarget resolved = none ↔
      SpelledUnderSome component.sourceRoots repositoryRelPath ∨
        ¬ SpelledUnderSome component.artifactPaths repositoryRelPath := by
  have hmember := artifactMember_isSome_of_owned hcomponent howner hid hresolved
  rw [← Option.not_isSome_iff_eq_none, hmember, ← holdsSource_iff, ← holdsArtifact_iff]
  cases holdsArtifact component repositoryRelPath <;>
    cases holdsSource component repositoryRelPath <;> simp

/-- A file of a component, below a source root of it or not, is planned as source exactly
where some source root shows in the text of its path, or no artifact path does. -/
theorem sourceFile_planned_iff
    (hcomponent : component ∈ repository.getComponents)
    (howner : repository.getFileOwner repositoryRelPath = .ok fileOwner)
    (hid : component.id = fileOwner.owner.id) :
    (∃ resolved, repository.resolveTarget (.file repositoryRelPath) = .ok resolved ∧
        PlannedAsSource repository resolved) ↔
      SpelledUnderSome component.sourceRoots repositoryRelPath ∨
        ¬ SpelledUnderSome component.artifactPaths repositoryRelPath := by
  rcases Repository.exists_resolveTarget_of_component howner hcomponent hid with
    ⟨resolved, hresolved⟩
  have hnone := artifactMember_eq_none_iff hcomponent howner hid hresolved
  rw [← hnone, ← plannedAsSource_iff]
  constructor
  · rintro ⟨other, hother, hplanned⟩
    rw [hresolved] at hother
    cases hother
    exact hplanned
  · intro hplanned
    exact ⟨resolved, hresolved, hplanned⟩

end OwnedFile

/-! ## Source files of Go components -/

/-- Every file below a source root of its Go component is planned as source. -/
def GoSourcesPlanned : Prop :=
  ∀ (attachment : GoAttachment) (repository : Repository) (provider : Provider)
    (component : Component) (repositoryRelPath : String) (fileOwner : FileOwnerInfo),
    provider ∈ repository.providersForRole .architecture →
      attachment.components = .ok provider.components →
        attachment.files = .ok provider.files →
          component ∈ provider.components →
            component ∈ repository.getComponents →
              repository.getFileOwner repositoryRelPath = .ok fileOwner →
                component.id = fileOwner.owner.id →
                  (∃ root ∈ component.sourceRoots, LiesUnder root repositoryRelPath) →
                    ∃ resolved,
                      repository.resolveTarget (.file repositoryRelPath) = .ok resolved ∧
                        PlannedAsSource repository resolved

namespace Sample

/-- A module with a command in its root, attached at `app`. -/
def goAttachment : GoAttachment :=
  { tree :=
      { entries :=
          [(["w"], .directory), (["w", "app"], .directory),
            (["w", "app", "go.mod"], .file), (["w", "app", "main.go"], .file)]
        linkLimit := 40 }
    attachmentRoot := ["w", "app"]
    attachmentRootRelPath := "app"
    moduleRoots := [["w", "app"]]
    goModLines := fun _ => .ok ["module example.com/app"]
    goList := fun _ => .ok
      [{ importPath := "example.com/app"
         dir := "/w/app"
         name := "main"
         goFiles := ["main.go"] }] }

def goComponent : Component :=
  { id := "component:go:example.com/app"
    name := "example.com/app"
    componentKind := .binary
    language := .go
    sourceRoots := ["app/."]
    artifactPaths := ["app/main.go"]
    provenance :=
      [⟨.derived, .manifest, none,
        "derived from go package analysis for the module workspace",
        ["app", "app/main.go"]⟩] }

def goFile (path name owner : String) (language : Option ProgrammingLanguage) : FileInfo :=
  { id := "file:" ++ path
    name := name
    repositoryRelPath := path
    language := language
    ownerId := owner
    provenance :=
      [⟨.derived, .ownership, none, "derived from go package directory ownership", [path]⟩] }

def goProvider : Provider :=
  { providerId := "go"
    attachmentRootRelPath := "app"
    components := [goComponent]
    packageManagers :=
      [{ id := "pkgmgr:go:app"
         name := "go"
         manager := "go"
         lockfilePath := some "app/go.mod"
         provenance :=
           [⟨.derived, .manifest, none, "derived from go.mod module metadata",
             ["app/go.mod"]⟩] }]
    files :=
      [goFile "app/go.mod" "go.mod" "pkgmgr:go:app" none,
        goFile "app/main.go" "main.go" "component:go:example.com/app" (some .go)] }

def goRepository : Repository := repository [goProvider] [.architecture, .test]

def goOwner : FileOwnerInfo :=
  { fileInfo := goFile "app/main.go" "main.go" "component:go:example.com/app" (some .go)
    owner := ⟨"component:go:example.com/app", .component, "example.com/app"⟩ }

end Sample

theorem goComponents_analyzed :
    Sample.goAttachment.components = .ok [Sample.goComponent] ∧
      Sample.goAttachment.files = .ok Sample.goProvider.files := by
  decide +kernel

theorem goFile_owned :
    Sample.goRepository.getFileOwner "app/main.go" = .ok Sample.goOwner := by
  decide +kernel

theorem goFile_under :
    ∃ root ∈ Sample.goComponent.sourceRoots, LiesUnder root "app/main.go" := by
  decide

theorem goComponent_mem : Sample.goComponent ∈ Sample.goRepository.getComponents := by
  decide +kernel

/-- The one source of a command in the attachment root has a change set without tests
and without builds. -/
theorem goSources_not_always_planned : ¬ GoSourcesPlanned := by
  intro hplanned
  have hsource : ¬ SpelledUnderSome Sample.goComponent.sourceRoots "app/main.go" := by
    rw [← holdsSource_iff]
    decide
  have hartifact : SpelledUnderSome Sample.goComponent.artifactPaths "app/main.go" := by
    rw [← holdsArtifact_iff]
    decide
  rcases hplanned Sample.goAttachment Sample.goRepository Sample.goProvider
    Sample.goComponent "app/main.go" Sample.goOwner
    (by simp [Sample.goRepository, Sample.repository, providersForRole])
    goComponents_analyzed.1 goComponents_analyzed.2 (by simp [Sample.goProvider])
    goComponent_mem goFile_owned rfl goFile_under with ⟨resolved, hresolved, hmember⟩
  rw [plannedAsSource_iff,
    artifactMember_eq_none_iff goComponent_mem goFile_owned rfl hresolved] at hmember
  cases hmember with
  | inl hspelled => exact hsource hspelled
  | inr hnone => exact hnone hartifact

/-- The characterization at the source of the command. -/
theorem sourceFile_planned_iff_goFile :
    (∃ resolved,
        Sample.goRepository.resolveTarget (.file "app/main.go") = .ok resolved ∧
          PlannedAsSource Sample.goRepository resolved) ↔
      SpelledUnderSome Sample.goComponent.sourceRoots "app/main.go" ∨
        ¬ SpelledUnderSome Sample.goComponent.artifactPaths "app/main.go" :=
  sourceFile_planned_iff goComponent_mem goFile_owned rfl

end SuitCode
