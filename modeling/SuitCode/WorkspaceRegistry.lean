import SuitCode.Exceptions
import SuitCode.Library.KeyedTable
import SuitCode.Library.PosixText
import SuitCode.Library.Runs

/-!
# The workspace registry

The registry keeps the open workspaces by id and the id of a workspace by the root of each
of its repositories.  The id of a workspace is the base name of its first root, and a second
workspace of this name takes the place of the first one while the roots of the first stay
in the other table.
-/

namespace SuitCode

open PosixText ExceptList Runs

/-! ## Workspaces -/

/-- What the repository classes find in the file system: the root for a path, whether
providers support a root, and what the constructor of a repository raises there.  The root
for a path is its own root. -/
structure RepositoryEnvironment where
  rootCandidate : List String → PyResult (List String)
  supported : List String → Bool
  construct : List String → PyResult Unit
  stable : ∀ path root, rootCandidate path = .ok root → rootCandidate root = .ok root

structure RegisteredRepository where
  id : String
  root : List String
  deriving DecidableEq, Repr

structure RegisteredWorkspace where
  serial : ℕ
  id : String
  repositoriesByRoot : List (List String × RegisteredRepository)
  deriving DecidableEq, Repr

def baseName (root : List String) : String := root.getLastD ""

def rootText (root : List String) : String := "/" ++ join "/" root

def availableProviders : String := "go, markdown, npm, openapi, python"

namespace RegisteredWorkspace

def repositories (workspace : RegisteredWorkspace) : List RegisteredRepository :=
  workspace.repositoriesByRoot.map Prod.snd

def roots (workspace : RegisteredWorkspace) : List (List String) :=
  workspace.repositories.map RegisteredRepository.root

/-- `_next_repository_id`: a suffix is found among as many as there are ids, and one. -/
def nextRepositoryId (workspace : RegisteredWorkspace) (root : List String) : String :=
  let existing := workspace.repositories.map RegisteredRepository.id
  let candidate := "repo:" ++ baseName root
  if candidate ∉ existing then
    candidate
  else
    (((List.range (existing.length + 1)).map fun index =>
      candidate ++ "-" ++ toString (index + 2)).find? fun other => other ∉ existing).getD
        candidate

def createRepository (environment : RepositoryEnvironment) (repositoryId : String)
    (directory : List String) : PyResult RegisteredRepository := do
  let root ← environment.rootCandidate directory
  let supportRoot ← environment.rootCandidate root
  if !environment.supported supportRoot then
    raiseValueError
      ("repository is not supported: `" ++ rootText root ++
        "`. No registered providers matched this repository. Available providers: " ++
          availableProviders ++
            ". Use Repository.support_for_path(...) to inspect support before construction.")
  else do
    environment.construct root
    pure ⟨repositoryId, root⟩

/-- `Workspace.add_repository`, and `get_repository`. -/
def addRepository (environment : RepositoryEnvironment) (workspace : RegisteredWorkspace)
    (directory : List String) : PyResult (RegisteredWorkspace × RegisteredRepository) := do
  let root ← environment.rootCandidate directory
  let supportRoot ← environment.rootCandidate root
  if !environment.supported supportRoot then
    raiseValueError
      ("workspace cannot add unsupported repository `" ++ rootText root ++ "`")
  else
    match workspace.repositoriesByRoot.find? fun entry => entry.1 = root with
    | some entry => pure (workspace, entry.2)
    | none => do
        let repository ←
          createRepository environment (workspace.nextRepositoryId root) root
        pure
          ({ workspace with
              repositoriesByRoot := workspace.repositoriesByRoot ++ [(root, repository)] },
            repository)

def create (environment : RepositoryEnvironment) (serial : ℕ) (directory : List String) :
    PyResult RegisteredWorkspace := do
  let initialRoot ← environment.rootCandidate directory
  let supportRoot ← environment.rootCandidate initialRoot
  if !environment.supported supportRoot then
    raiseValueError
      ("workspace cannot be created for unsupported repository `" ++ rootText initialRoot ++
        "`. No registered providers matched this repository. Available providers: " ++
          availableProviders ++ ".")
  else do
    let added ← addRepository environment
      { serial := serial
        id := "workspace:" ++ baseName initialRoot
        repositoriesByRoot := [] } directory
    pure added.1

end RegisteredWorkspace

/-! ## The registry -/

inductive RegistryError where
  | raised (exception : PyError)
  | keyError (key : String)
  deriving DecidableEq, Repr

abbrev RegistryResult := Except RegistryError

def RegistryResult.ofPy {α : Type} (result : PyResult α) : RegistryResult α :=
  match result with
  | .ok value => .ok value
  | .error exception => .error (.raised exception)

structure WorkspaceRegistry where
  workspacesById : KeyedTable (Prod.fst : String × RegisteredWorkspace → String)
  workspaceIdsByRoot : KeyedTable (Prod.fst : List String × String → List String)
  nextSerial : ℕ

/-- What `open_workspace` and `add_repository` return. -/
structure WorkspaceState where
  workspace : RegisteredWorkspace
  repository : RegisteredRepository
  owningWorkspaceId : String
  reused : Bool
  deriving DecidableEq, Repr

namespace WorkspaceRegistry

def empty : WorkspaceRegistry := ⟨KeyedTable.empty, KeyedTable.empty, 0⟩

def getWorkspace (registry : WorkspaceRegistry) (workspaceId : String) :
    RegistryResult RegisteredWorkspace :=
  match registry.workspacesById.lookup workspaceId with
  | some entry => .ok entry.2
  | none =>
      .error (.raised (.mcpNotFoundError ("unknown workspace id: `" ++ workspaceId ++ "`")))

def knownRepository (environment : RepositoryEnvironment) (registry : WorkspaceRegistry)
    (workspaceId : String) (root : List String) :
    RegistryResult (WorkspaceRegistry × RegisteredWorkspace × RegisteredRepository) :=
  match registry.workspacesById.lookup workspaceId with
  | none => .error (.keyError workspaceId)
  | some entry => do
      let found ← RegistryResult.ofPy (entry.2.addRepository environment root)
      pure ({ registry with workspacesById := registry.workspacesById.upsert (entry.1, found.1) },
        found.1, found.2)

def openWorkspace (environment : RepositoryEnvironment) (registry : WorkspaceRegistry)
    (path : List String) : RegistryResult (WorkspaceRegistry × WorkspaceState) := do
  let root ← RegistryResult.ofPy (environment.rootCandidate path)
  match registry.workspaceIdsByRoot.lookup root with
  | some known => do
      let found ← registry.knownRepository environment known.2 root
      pure (found.1, ⟨found.2.1, found.2.2, known.2, true⟩)
  | none => do
      let workspace ← RegistryResult.ofPy
        (RegisteredWorkspace.create environment registry.nextSerial root)
      match workspace.repositories with
      | [] => .error (.raised .indexError)
      | repository :: _ =>
          pure
            ({ workspacesById := registry.workspacesById.upsert (workspace.id, workspace)
               workspaceIdsByRoot := registry.workspaceIdsByRoot.upsertAll
                (workspace.roots.map fun root => (root, workspace.id))
               nextSerial := registry.nextSerial + 1 },
              ⟨workspace, repository, workspace.id, false⟩)

def addRepository (environment : RepositoryEnvironment) (registry : WorkspaceRegistry)
    (workspaceId : String) (path : List String) :
    RegistryResult (WorkspaceRegistry × WorkspaceState) := do
  let root ← RegistryResult.ofPy (environment.rootCandidate path)
  let workspace ← registry.getWorkspace workspaceId
  match registry.workspaceIdsByRoot.lookup root with
  | some known => do
      let found ← registry.knownRepository environment known.2 root
      pure (found.1, ⟨workspace, found.2.2, known.2, true⟩)
  | none => do
      let added ← RegistryResult.ofPy (workspace.addRepository environment root)
      pure
        ({ registry with
            workspacesById := registry.workspacesById.upsert (workspaceId, added.1)
            workspaceIdsByRoot :=
              registry.workspaceIdsByRoot.upsert (added.2.root, added.1.id) },
          ⟨added.1, added.2, added.1.id, false⟩)

def closeWorkspace (registry : WorkspaceRegistry) (workspaceId : String) :
    RegistryResult WorkspaceRegistry :=
  match registry.workspacesById.lookup workspaceId with
  | none =>
      .error (.raised (.mcpNotFoundError ("unknown workspace id: `" ++ workspaceId ++ "`")))
  | some entry =>
      .ok
        { registry with
          workspacesById := registry.workspacesById.delete workspaceId
          workspaceIdsByRoot := registry.workspaceIdsByRoot.deleteAll entry.2.roots }

end WorkspaceRegistry

/-! ## Runs of the registry -/

inductive WorkspaceCall where
  | openWorkspace (path : List String)
  | addRepository (workspaceId : String) (path : List String)
  | closeWorkspace (workspaceId : String)
  deriving DecidableEq, Repr

/-- A registry with the workspaces which `open_workspace` returned and which are not closed:
the id and the object which it denoted then. -/
structure RegistryHistory where
  registry : WorkspaceRegistry
  returned : List (String × ℕ)

namespace RegistryHistory

def start : RegistryHistory := ⟨WorkspaceRegistry.empty, []⟩

def step (environment : RepositoryEnvironment) (history : RegistryHistory) :
    WorkspaceCall → RegistryHistory
  | .openWorkspace path =>
      match history.registry.openWorkspace environment path with
      | .error _ => history
      | .ok (registry, opened) =>
          ⟨registry, (opened.workspace.id, opened.workspace.serial) :: history.returned⟩
  | .addRepository workspaceId path =>
      match history.registry.addRepository environment workspaceId path with
      | .error _ => history
      | .ok (registry, _) => { history with registry := registry }
  | .closeWorkspace workspaceId =>
      match history.registry.closeWorkspace workspaceId with
      | .error _ => history
      | .ok registry =>
          ⟨registry, history.returned.filter fun handle => handle.1 ≠ workspaceId⟩

/-- The two tables agree, and every returned id denotes the workspace it denoted. -/
structure Consistent (history : RegistryHistory) : Prop where
  rootsKnown :
    ∀ known ∈ history.registry.workspaceIdsByRoot,
      ∃ entry ∈ history.registry.workspacesById,
        entry.1 = known.2 ∧ known.1 ∈ entry.2.roots
  rootsListed :
    ∀ entry ∈ history.registry.workspacesById, ∀ root ∈ entry.2.roots,
      (root, entry.1) ∈ history.registry.workspaceIdsByRoot
  rootsApart :
    ∀ entry ∈ history.registry.workspacesById,
      ∀ other ∈ history.registry.workspacesById,
        ∀ root ∈ entry.2.roots, root ∈ other.2.roots → entry = other
  denoted :
    ∀ handle ∈ history.returned,
      ∃ entry ∈ history.registry.workspacesById,
        entry.1 = handle.1 ∧ entry.2.serial = handle.2

/-- The call does not open a new root under the id of an open workspace. -/
def Unclaimed (environment : RepositoryEnvironment) (history : RegistryHistory) :
    WorkspaceCall → Prop
  | .openWorkspace path =>
      ∀ root, environment.rootCandidate path = .ok root →
        ¬ history.registry.workspaceIdsByRoot.HasKey root →
          environment.supported root = true → environment.construct root = .ok () →
            ¬ history.registry.workspacesById.HasKey ("workspace:" ++ baseName root)
  | _ => True

/-- What the registry keeps of its workspaces besides. -/
structure Sound (environment : RepositoryEnvironment) (history : RegistryHistory) : Prop
    extends Consistent history where
  ownIds : ∀ entry ∈ history.registry.workspacesById, entry.2.id = entry.1
  serials :
    ∀ entry ∈ history.registry.workspacesById, entry.2.serial < history.registry.nextSerial
  handled :
    ∀ entry ∈ history.registry.workspacesById, (entry.1, entry.2.serial) ∈ history.returned
  ownRoots :
    ∀ entry ∈ history.registry.workspacesById, ∀ held ∈ entry.2.repositoriesByRoot,
      held.2.root = held.1 ∧ environment.rootCandidate held.1 = .ok held.1 ∧
        environment.supported held.1 = true

end RegistryHistory

/-! ## What the calls do -/

@[simp] theorem ofPy_eq_ok {α : Type} {result : PyResult α} {value : α} :
    RegistryResult.ofPy result = .ok value ↔ result = .ok value := by
  cases result <;> simp [RegistryResult.ofPy]

namespace RegisteredWorkspace

def attach (workspace : RegisteredWorkspace) (root : List String) : RegisteredWorkspace :=
  { workspace with
    repositoriesByRoot :=
      workspace.repositoriesByRoot ++ [(root, ⟨workspace.nextRepositoryId root, root⟩)] }

theorem roots_attach (workspace : RegisteredWorkspace) (root : List String) :
    (workspace.attach root).roots = workspace.roots ++ [root] := by
  simp [attach, roots, repositories]

section Stable

variable {environment : RepositoryEnvironment} {workspace : RegisteredWorkspace}
  {root : List String} (hroot : environment.rootCandidate root = .ok root)
include hroot

theorem addRepository_absent_eq_ok_iff
    {result : RegisteredWorkspace × RegisteredRepository}
    (habsent : root ∉ workspace.repositoriesByRoot.map Prod.fst) :
    workspace.addRepository environment root = .ok result ↔
      environment.supported root = true ∧ environment.construct root = .ok () ∧
        result = (workspace.attach root, ⟨workspace.nextRepositoryId root, root⟩) := by
  have hfind : workspace.repositoriesByRoot.find? (fun entry => entry.1 = root) = none := by
    rw [List.find?_eq_none]
    intro entry hentry hsame
    apply habsent
    rw [← of_decide_eq_true hsame]
    exact List.mem_map_of_mem hentry
  unfold addRepository createRepository
  simp only [hroot, ok_bind, hfind]
  cases hsupported : environment.supported root with
  | false => simp [raiseValueError]
  | true =>
      simp only [Bool.not_true, Bool.false_eq_true, if_false, bind_eq_ok, pure_eq_ok, true_and]
      constructor
      · rintro ⟨repository, ⟨value, hconstruct, rfl⟩, rfl⟩
        exact ⟨hconstruct, rfl⟩
      · rintro ⟨hconstruct, rfl⟩
        exact ⟨_, ⟨(), hconstruct, rfl⟩, rfl⟩

theorem addRepository_present
    (hsupported : environment.supported root = true)
    (hpresent : root ∈ workspace.repositoriesByRoot.map Prod.fst) :
    ∃ repository, (root, repository) ∈ workspace.repositoriesByRoot ∧
      workspace.addRepository environment root = .ok (workspace, repository) := by
  have hsome : (workspace.repositoriesByRoot.find? fun entry => entry.1 = root).isSome := by
    rw [List.find?_isSome]
    rcases List.mem_map.mp hpresent with ⟨entry, hentry, heq⟩
    exact ⟨entry, hentry, decide_eq_true heq⟩
  rcases Option.isSome_iff_exists.mp hsome with ⟨entry, hentry⟩
  have hkey : entry.1 = root := by
    have hfound := List.find?_some hentry
    exact of_decide_eq_true hfound
  use entry.2
  constructor
  · rw [← hkey]
    exact List.mem_of_find?_eq_some hentry
  · unfold addRepository
    simp only [hroot, ok_bind, hsupported, hentry]
    rfl

theorem create_eq_ok_iff {serial : ℕ} {created : RegisteredWorkspace} :
    create environment serial root = .ok created ↔
      environment.supported root = true ∧ environment.construct root = .ok () ∧
        created = attach ⟨serial, "workspace:" ++ baseName root, []⟩ root := by
  unfold create
  simp only [hroot, ok_bind]
  cases hsupported : environment.supported root with
  | false => simp [raiseValueError]
  | true =>
      simp only [Bool.not_true, Bool.false_eq_true, if_false, bind_eq_ok, pure_eq_ok]
      have hadd := fun result => @addRepository_absent_eq_ok_iff environment
        ⟨serial, "workspace:" ++ baseName root, []⟩ root hroot result (by simp)
      constructor
      · rintro ⟨added, hadded, rfl⟩
        rcases (hadd added).mp hadded with ⟨-, hconstruct, rfl⟩
        exact ⟨trivial, hconstruct, rfl⟩
      · rintro ⟨-, hconstruct, rfl⟩
        exact ⟨_, (hadd _).mpr ⟨hsupported, hconstruct, rfl⟩, rfl⟩

end Stable

end RegisteredWorkspace

namespace WorkspaceRegistry

def newWorkspace (registry : WorkspaceRegistry) (root : List String) : RegisteredWorkspace :=
  RegisteredWorkspace.attach ⟨registry.nextSerial, "workspace:" ++ baseName root, []⟩ root

def withNew (registry : WorkspaceRegistry) (root : List String) : WorkspaceRegistry :=
  { workspacesById :=
      registry.workspacesById.upsert ("workspace:" ++ baseName root, registry.newWorkspace root)
    workspaceIdsByRoot :=
      registry.workspaceIdsByRoot.upsert (root, "workspace:" ++ baseName root)
    nextSerial := registry.nextSerial + 1 }

def withRoot (registry : WorkspaceRegistry) (entry : String × RegisteredWorkspace)
    (root : List String) : WorkspaceRegistry :=
  { registry with
    workspacesById := registry.workspacesById.upsert (entry.1, entry.2.attach root)
    workspaceIdsByRoot := registry.workspaceIdsByRoot.upsert (root, entry.1) }

theorem roots_apart {registry : WorkspaceRegistry}
    (hlisted : ∀ entry ∈ registry.workspacesById, ∀ root ∈ entry.2.roots,
      (root, entry.1) ∈ registry.workspaceIdsByRoot)
    {left right : String × RegisteredWorkspace} (hleft : left ∈ registry.workspacesById)
    (hright : right ∈ registry.workspacesById) {root : List String}
    (hleftRoot : root ∈ left.2.roots) (hrightRoot : root ∈ right.2.roots) : left = right := by
  have hsame := KeyedTable.eq_of_mem (hlisted left hleft root hleftRoot)
    (hlisted right hright root hrightRoot) rfl
  exact KeyedTable.eq_of_mem hleft hright (congrArg Prod.snd hsame)

end WorkspaceRegistry

variable {entry : String × RegisteredWorkspace} {path : List String}
  {result : WorkspaceRegistry × WorkspaceState}

namespace RegistryHistory

section Steps

variable {environment : RepositoryEnvironment} {history : RegistryHistory}
  (hsound : history.Sound environment)
include hsound

theorem Sound.mem_roots_iff {root : List String} (hentry : entry ∈ history.registry.workspacesById) :
    root ∈ entry.2.roots ↔ root ∈ entry.2.repositoriesByRoot.map Prod.fst := by
  have hown := hsound.ownRoots entry hentry
  simp only [RegisteredWorkspace.roots, RegisteredWorkspace.repositories, List.map_map,
    List.mem_map, Function.comp_apply]
  constructor
  · rintro ⟨held, hheld, rfl⟩
    exact ⟨held, hheld, (hown held hheld).1.symm⟩
  · rintro ⟨held, hheld, rfl⟩
    exact ⟨held, hheld, (hown held hheld).1⟩

theorem Sound.knownRepository_eq {known : List String × String}
    (hknown : known ∈ history.registry.workspaceIdsByRoot) :
    ∃ entry ∈ history.registry.workspacesById, entry.1 = known.2 ∧
      ∃ repository,
        history.registry.knownRepository environment known.2 known.1 =
          .ok (history.registry, entry.2, repository) := by
  rcases hsound.rootsKnown known hknown with ⟨entry, hentry, hid, hroot⟩
  have hlookup : history.registry.workspacesById.lookup known.2 = some entry :=
    KeyedTable.lookup_eq_some_iff.mpr ⟨hentry, hid⟩
  have hpresent := (hsound.mem_roots_iff hentry).mp hroot
  rcases List.mem_map.mp hpresent with ⟨held, hheld, hkey⟩
  have hown := hsound.ownRoots entry hentry held hheld
  rw [hkey] at hown
  rcases RegisteredWorkspace.addRepository_present hown.2.1 hown.2.2 hpresent with
    ⟨repository, -, hadded⟩
  have hsame : history.registry.workspacesById.upsert (entry.1, entry.2) =
      history.registry.workspacesById :=
    KeyedTable.upsert_of_mem hentry
  refine ⟨entry, hentry, hid, repository, ?_⟩
  unfold WorkspaceRegistry.knownRepository
  rw [hlookup]
  simp only [hadded, RegistryResult.ofPy, ok_bind, hsame]
  rfl

theorem Sound.openWorkspace_cases
    (hok : history.registry.openWorkspace environment path = .ok result) :
    (∃ entry ∈ history.registry.workspacesById,
        result.1 = history.registry ∧ result.2.workspace = entry.2) ∨
      ∃ root, environment.rootCandidate path = .ok root ∧
        ¬ history.registry.workspaceIdsByRoot.HasKey root ∧
          environment.supported root = true ∧ environment.construct root = .ok () ∧
            result.1 = history.registry.withNew root ∧
              result.2.workspace = history.registry.newWorkspace root := by
  unfold WorkspaceRegistry.openWorkspace at hok
  rcases bind_eq_ok.mp hok with ⟨root, hroot, hok⟩
  rw [ofPy_eq_ok] at hroot
  cases hlookup : history.registry.workspaceIdsByRoot.lookup root with
  | some known =>
      left
      have hknown := KeyedTable.lookup_eq_some_iff.mp hlookup
      rcases hsound.knownRepository_eq hknown.1 with ⟨entry, hentry, -, repository, hfound⟩
      rw [hknown.2] at hfound
      simp only [hlookup, hfound, ok_bind, pure_eq_ok] at hok
      rw [← hok]
      exact ⟨entry, hentry, rfl, rfl⟩
  | none =>
      right
      have hstable := environment.stable path root hroot
      simp only [hlookup, bind_eq_ok, ofPy_eq_ok,
        RegisteredWorkspace.create_eq_ok_iff hstable] at hok
      rcases hok with ⟨workspace, ⟨hsupported, hconstruct, rfl⟩, hok⟩
      rw [← pure_eq_ok.mp hok]
      exact ⟨root, hroot, KeyedTable.lookup_eq_none_iff.mp hlookup, hsupported, hconstruct,
        rfl, rfl⟩

theorem Sound.addRepository_cases {workspaceId : String}
    (hok : history.registry.addRepository environment workspaceId path = .ok result) :
    result.1 = history.registry ∨
      ∃ root, ∃ entry ∈ history.registry.workspacesById,
        environment.rootCandidate root = .ok root ∧
          ¬ history.registry.workspaceIdsByRoot.HasKey root ∧
            environment.supported root = true ∧
              result.1 = history.registry.withRoot entry root := by
  unfold WorkspaceRegistry.addRepository at hok
  rcases bind_eq_ok.mp hok with ⟨root, hroot, hok⟩
  rw [ofPy_eq_ok] at hroot
  rcases bind_eq_ok.mp hok with ⟨workspace, hworkspace, hok⟩
  cases hlookup : history.registry.workspaceIdsByRoot.lookup root with
  | some known =>
      left
      have hknown := KeyedTable.lookup_eq_some_iff.mp hlookup
      rcases hsound.knownRepository_eq hknown.1 with ⟨entry, hentry, -, repository, hfound⟩
      rw [hknown.2] at hfound
      simp only [hlookup, hfound, ok_bind, pure_eq_ok] at hok
      rw [← hok]
  | none =>
      right
      have hunknown := KeyedTable.lookup_eq_none_iff.mp hlookup
      have hstable := environment.stable path root hroot
      unfold WorkspaceRegistry.getWorkspace at hworkspace
      cases hfound : history.registry.workspacesById.lookup workspaceId with
      | none =>
          rw [hfound] at hworkspace
          cases hworkspace
      | some entry =>
          simp only [hfound, Except.ok.injEq] at hworkspace
          subst hworkspace
          have hentry := KeyedTable.lookup_eq_some_iff.mp hfound
          have habsent : root ∉ entry.2.repositoriesByRoot.map Prod.fst := by
            intro hmem
            have hheld := (hsound.mem_roots_iff hentry.1).mpr hmem
            exact hunknown
              (KeyedTable.hasKey_of_mem (hsound.rootsListed entry hentry.1 root hheld))
          simp only [hlookup, bind_eq_ok, ofPy_eq_ok, pure_eq_ok,
            RegisteredWorkspace.addRepository_absent_eq_ok_iff hstable habsent] at hok
          rcases hok with ⟨added, ⟨hsupported, -, rfl⟩, rfl⟩
          refine ⟨root, entry, hentry.1, hstable, hunknown, hsupported, ?_⟩
          have hid : (entry.2.attach root).id = entry.1 := hsound.ownIds entry hentry.1
          simp only [WorkspaceRegistry.withRoot, hid, ← hentry.2]

theorem Sound.withNew {root : List String}
    (hroot : environment.rootCandidate root = .ok root)
    (hsupported : environment.supported root = true)
    (hunknown : ¬ history.registry.workspaceIdsByRoot.HasKey root)
    (hunclaimed : ¬ history.registry.workspacesById.HasKey ("workspace:" ++ baseName root)) :
    Sound environment
      ⟨history.registry.withNew root,
        ("workspace:" ++ baseName root, history.registry.nextSerial) :: history.returned⟩ := by
  have hroots : (history.registry.newWorkspace root).roots = [root] := by
    unfold WorkspaceRegistry.newWorkspace
    rw [RegisteredWorkspace.roots_attach]
    rfl
  have hentries : ∀ entry, entry ∈ (history.registry.withNew root).workspacesById ↔
      entry = ("workspace:" ++ baseName root, history.registry.newWorkspace root) ∨
        entry ∈ history.registry.workspacesById := by
    intro entry
    exact KeyedTable.mem_upsert_of_fresh hunclaimed
  have hknowns : ∀ known, known ∈ (history.registry.withNew root).workspaceIdsByRoot ↔
      known = (root, "workspace:" ++ baseName root) ∨
        known ∈ history.registry.workspaceIdsByRoot := by
    intro known
    exact KeyedTable.mem_upsert_of_fresh hunknown
  have hlisted : ∀ entry ∈ (history.registry.withNew root).workspacesById,
      ∀ other ∈ entry.2.roots,
        (other, entry.1) ∈ (history.registry.withNew root).workspaceIdsByRoot := by
    intro entry hentry other hmem
    rw [hentries] at hentry
    rw [hknowns]
    cases hentry with
    | inl heq =>
        rw [heq, hroots, List.mem_singleton] at hmem
        rw [heq, hmem]
        exact Or.inl rfl
    | inr hold => exact Or.inr (hsound.rootsListed entry hold other hmem)
  constructor
  case toConsistent =>
    constructor
    case rootsKnown =>
      intro known hknown
      rw [hknowns] at hknown
      cases hknown with
      | inl heq =>
          refine ⟨_, (hentries _).mpr (Or.inl rfl), ?_⟩
          rw [heq, hroots]
          exact ⟨rfl, List.mem_singleton_self _⟩
      | inr hmem =>
          rcases hsound.rootsKnown known hmem with ⟨entry, hentry, hrest⟩
          exact ⟨entry, (hentries entry).mpr (Or.inr hentry), hrest⟩
    case rootsListed => exact hlisted
    case rootsApart =>
      intro entry hentry other hotherEntry root
      exact WorkspaceRegistry.roots_apart hlisted hentry hotherEntry
    case denoted =>
      intro handle hhandle
      rw [List.mem_cons] at hhandle
      cases hhandle with
      | inl heq =>
          refine ⟨_, (hentries _).mpr (Or.inl rfl), ?_⟩
          rw [heq]
          exact ⟨rfl, rfl⟩
      | inr hold =>
          rcases hsound.denoted handle hold with ⟨entry, hentry, hrest⟩
          exact ⟨entry, (hentries entry).mpr (Or.inr hentry), hrest⟩
  case ownIds =>
    intro entry hentry
    rw [hentries] at hentry
    cases hentry with
    | inl heq => rw [heq]; rfl
    | inr hold => exact hsound.ownIds entry hold
  case serials =>
    intro entry hentry
    rw [hentries] at hentry
    cases hentry with
    | inl heq =>
        rw [heq]
        exact Nat.lt_succ_self _
    | inr hold => exact Nat.lt_succ_of_lt (hsound.serials entry hold)
  case handled =>
    intro entry hentry
    rw [hentries] at hentry
    cases hentry with
    | inl heq =>
        rw [heq]
        exact List.mem_cons_self
    | inr hold => exact List.mem_cons_of_mem _ (hsound.handled entry hold)
  case ownRoots =>
    intro entry hentry held hheld
    rw [hentries] at hentry
    cases hentry with
    | inl heq =>
        rw [heq] at hheld
        have hsame := List.mem_singleton.mp hheld
        rw [hsame]
        exact ⟨rfl, hroot, hsupported⟩
    | inr hold => exact hsound.ownRoots entry hold held hheld

theorem Sound.withRoot {root : List String} (hentry : entry ∈ history.registry.workspacesById)
    (hroot : environment.rootCandidate root = .ok root)
    (hsupported : environment.supported root = true)
    (hunknown : ¬ history.registry.workspaceIdsByRoot.HasKey root) :
    Sound environment ⟨history.registry.withRoot entry root, history.returned⟩ := by
  have hentries : ∀ other, other ∈ (history.registry.withRoot entry root).workspacesById ↔
      other = (entry.1, entry.2.attach root) ∨
        other ∈ history.registry.workspacesById ∧ other.1 ≠ entry.1 := by
    intro other
    simp only [WorkspaceRegistry.withRoot, KeyedTable.mem_upsert]
  have hknowns : ∀ known, known ∈ (history.registry.withRoot entry root).workspaceIdsByRoot ↔
      known = (root, entry.1) ∨ known ∈ history.registry.workspaceIdsByRoot := by
    intro known
    exact KeyedTable.mem_upsert_of_fresh hunknown
  -- an entry of the old table under the id of the changed one is the changed one
  have hreplaced : ∀ other ∈ history.registry.workspacesById,
      ∃ later ∈ (history.registry.withRoot entry root).workspacesById,
        later.1 = other.1 ∧ later.2.serial = other.2.serial ∧
          ∀ held ∈ other.2.roots, held ∈ later.2.roots := by
    intro other hother
    by_cases hid : other.1 = entry.1
    · have hsame := KeyedTable.eq_of_mem hother hentry hid
      subst hsame
      refine ⟨_, (hentries _).mpr (Or.inl rfl), rfl, rfl, ?_⟩
      intro held hheld
      rw [RegisteredWorkspace.roots_attach]
      exact List.mem_append_left _ hheld
    · exact ⟨other, (hentries other).mpr (Or.inr ⟨hother, hid⟩), rfl, rfl, fun _ hheld => hheld⟩
  have hlisted : ∀ other ∈ (history.registry.withRoot entry root).workspacesById,
      ∀ held ∈ other.2.roots,
        (held, other.1) ∈ (history.registry.withRoot entry root).workspaceIdsByRoot := by
    intro other hother held hheld
    rw [hentries] at hother
    rw [hknowns]
    cases hother with
    | inl heq =>
        rw [heq, RegisteredWorkspace.roots_attach, List.mem_append,
          List.mem_singleton] at hheld
        rw [heq]
        cases hheld with
        | inl hold => exact Or.inr (hsound.rootsListed entry hentry held hold)
        | inr hnew =>
            rw [hnew]
            exact Or.inl rfl
    | inr hold => exact Or.inr (hsound.rootsListed other hold.1 held hheld)
  constructor
  case toConsistent =>
    constructor
    case rootsKnown =>
      intro known hknown
      rw [hknowns] at hknown
      cases hknown with
      | inl heq =>
          refine ⟨_, (hentries _).mpr (Or.inl rfl), ?_⟩
          rw [heq, RegisteredWorkspace.roots_attach]
          exact ⟨rfl, List.mem_append_right _ (List.mem_singleton_self _)⟩
      | inr hmem =>
          rcases hsound.rootsKnown known hmem with ⟨other, hother, hid, hheld⟩
          rcases hreplaced other hother with ⟨later, hlater, hsame, -, hroots⟩
          exact ⟨later, hlater, hsame.trans hid, hroots _ hheld⟩
    case rootsListed => exact hlisted
    case rootsApart =>
      intro left hleft right hright shared
      exact WorkspaceRegistry.roots_apart hlisted hleft hright
    case denoted =>
      intro handle hhandle
      rcases hsound.denoted handle hhandle with ⟨other, hother, hid, hserial⟩
      rcases hreplaced other hother with ⟨later, hlater, hsame, hsameSerial, -⟩
      exact ⟨later, hlater, hsame.trans hid, hsameSerial.trans hserial⟩
  case ownIds =>
    intro other hother
    rw [hentries] at hother
    cases hother with
    | inl heq =>
        rw [heq]
        exact hsound.ownIds entry hentry
    | inr hold => exact hsound.ownIds other hold.1
  case serials =>
    intro other hother
    rw [hentries] at hother
    cases hother with
    | inl heq =>
        rw [heq]
        exact hsound.serials entry hentry
    | inr hold => exact hsound.serials other hold.1
  case handled =>
    intro other hother
    rw [hentries] at hother
    cases hother with
    | inl heq =>
        rw [heq]
        exact hsound.handled entry hentry
    | inr hold => exact hsound.handled other hold.1
  case ownRoots =>
    intro other hother held hheld
    rw [hentries] at hother
    cases hother with
    | inl heq =>
        rw [heq] at hheld
        rcases List.mem_append.mp hheld with hold | hnew
        · exact hsound.ownRoots entry hentry held hold
        · rw [List.mem_singleton.mp hnew]
          exact ⟨rfl, hroot, hsupported⟩
    | inr hold => exact hsound.ownRoots other hold.1 held hheld

theorem Sound.close (hentry : entry ∈ history.registry.workspacesById) :
    Sound environment
      ⟨{ history.registry with
          workspacesById := history.registry.workspacesById.delete entry.1
          workspaceIdsByRoot := history.registry.workspaceIdsByRoot.deleteAll entry.2.roots },
        history.returned.filter fun handle => handle.1 ≠ entry.1⟩ := by
  constructor
  case toConsistent =>
    constructor
    case rootsKnown =>
      intro known hknown
      rw [KeyedTable.mem_deleteAll] at hknown
      rcases hsound.rootsKnown known hknown.1 with ⟨other, hother, hid, hheld⟩
      refine ⟨other, KeyedTable.mem_delete.mpr ⟨hother, ?_⟩, hid, hheld⟩
      intro hsameId
      rw [KeyedTable.eq_of_mem hother hentry hsameId] at hheld
      exact hknown.2 hheld
    case rootsListed =>
      intro other hother root hroot
      rw [KeyedTable.mem_delete] at hother
      rw [KeyedTable.mem_deleteAll]
      refine ⟨hsound.rootsListed other hother.1 root hroot, ?_⟩
      intro hclosed
      rw [hsound.rootsApart other hother.1 entry hentry root hroot hclosed] at hother
      exact hother.2 rfl
    case rootsApart =>
      intro left hleft right hright
      rw [KeyedTable.mem_delete] at hleft hright
      exact hsound.rootsApart left hleft.1 right hright.1
    case denoted =>
      intro handle hhandle
      have hkept := List.mem_filter.mp hhandle
      rcases hsound.denoted handle hkept.1 with ⟨other, hother, hid, hserial⟩
      refine ⟨other, KeyedTable.mem_delete.mpr ⟨hother, ?_⟩, hid, hserial⟩
      rw [hid]
      exact of_decide_eq_true hkept.2
  case ownIds =>
    intro other hother
    exact hsound.ownIds other (KeyedTable.mem_delete.mp hother).1
  case serials =>
    intro other hother
    exact hsound.serials other (KeyedTable.mem_delete.mp hother).1
  case handled =>
    intro other hother
    have hkept := KeyedTable.mem_delete.mp hother
    exact List.mem_filter.mpr ⟨hsound.handled other hkept.1, decide_eq_true hkept.2⟩
  case ownRoots =>
    intro other hother
    exact hsound.ownRoots other (KeyedTable.mem_delete.mp hother).1

theorem Sound.reopened (hentry : entry ∈ history.registry.workspacesById) :
    Sound environment
      ⟨history.registry, (entry.1, entry.2.serial) :: history.returned⟩ := by
  constructor
  case toConsistent =>
    constructor
    case rootsKnown => exact hsound.rootsKnown
    case rootsListed => exact hsound.rootsListed
    case rootsApart => exact hsound.rootsApart
    case denoted =>
      intro handle hhandle
      rw [List.mem_cons] at hhandle
      cases hhandle with
      | inl heq =>
          rw [heq]
          exact ⟨entry, hentry, rfl, rfl⟩
      | inr hold => exact hsound.denoted handle hold
  case ownIds => exact hsound.ownIds
  case serials => exact hsound.serials
  case handled =>
    intro other hother
    exact List.mem_cons_of_mem _ (hsound.handled other hother)
  case ownRoots => exact hsound.ownRoots

omit hsound in
theorem step_openWorkspace_eq (hok : history.registry.openWorkspace environment path = .ok result) :
    history.step environment (.openWorkspace path) =
      ⟨result.1, (result.2.workspace.id, result.2.workspace.serial) :: history.returned⟩ := by
  simp only [step, hok]

theorem Sound.step {call : WorkspaceCall} (hunclaimed : history.Unclaimed environment call) :
    (history.step environment call).Sound environment := by
  cases call with
  | openWorkspace path =>
      cases hopen : history.registry.openWorkspace environment path with
      | error exception => simpa only [RegistryHistory.step, hopen] using hsound
      | ok result =>
          rw [step_openWorkspace_eq hopen]
          rcases hsound.openWorkspace_cases hopen with
            ⟨entry, hentry, hregistry, hworkspace⟩ |
              ⟨root, hroot, hunknown, hsupported, hconstruct, hregistry, hworkspace⟩
          case inl =>
            rw [hregistry, hworkspace, hsound.ownIds entry hentry]
            exact hsound.reopened hentry
          case inr =>
            have hfree := hunclaimed root hroot hunknown hsupported hconstruct
            have hstable := environment.stable path root hroot
            rw [hregistry, hworkspace]
            exact hsound.withNew hstable hsupported hunknown hfree
  | addRepository workspaceId path =>
      cases hadd : history.registry.addRepository environment workspaceId path with
      | error exception => simpa only [RegistryHistory.step, hadd] using hsound
      | ok result =>
          have hstep : history.step environment (.addRepository workspaceId path) =
              ⟨result.1, history.returned⟩ := by
            simp only [RegistryHistory.step, hadd]
          rw [hstep]
          rcases hsound.addRepository_cases hadd with
            hregistry | ⟨root, entry, hentry, hroot, hunknown, hsupported, hregistry⟩
          case inl =>
            rw [hregistry]
            exact hsound
          case inr =>
            rw [hregistry]
            exact hsound.withRoot hentry hroot hsupported hunknown
  | closeWorkspace workspaceId =>
      cases hlookup : history.registry.workspacesById.lookup workspaceId with
      | none =>
          simpa only [RegistryHistory.step, WorkspaceRegistry.closeWorkspace, hlookup]
            using hsound
      | some entry =>
          have hentry := KeyedTable.lookup_eq_some_iff.mp hlookup
          have hclosed := hsound.close hentry.1
          rw [hentry.2] at hclosed
          simpa only [RegistryHistory.step, WorkspaceRegistry.closeWorkspace, hlookup]
            using hclosed

theorem Sound.not_consistent_of_claimed {call : WorkspaceCall}
    (hclaimed : ¬ history.Unclaimed environment call) :
    ¬ (history.step environment call).Consistent := by
  cases call with
  | addRepository workspaceId path => exact absurd trivial hclaimed
  | closeWorkspace workspaceId => exact absurd trivial hclaimed
  | openWorkspace path =>
      simp only [Unclaimed] at hclaimed
      push Not at hclaimed
      rcases hclaimed with
        ⟨root, hroot, hunknown, hsupported, hconstruct, entry, hentry, hid⟩
      have hstable := environment.stable path root hroot
      have hlookup := KeyedTable.lookup_eq_none_iff.mpr hunknown
      have hcreate : RegisteredWorkspace.create environment history.registry.nextSerial root =
          .ok (history.registry.newWorkspace root) :=
        (RegisteredWorkspace.create_eq_ok_iff hstable).mpr ⟨hsupported, hconstruct, rfl⟩
      have hopen : ∃ repository, history.registry.openWorkspace environment path =
          .ok (history.registry.withNew root,
            ⟨history.registry.newWorkspace root, repository, "workspace:" ++ baseName root,
              false⟩) := by
        unfold WorkspaceRegistry.openWorkspace
        simp only [hroot, RegistryResult.ofPy, ok_bind, hlookup, hcreate]
        exact ⟨_, rfl⟩
      rcases hopen with ⟨repository, hopen⟩
      rw [step_openWorkspace_eq hopen]
      intro hconsistent
      have hhandle := hsound.handled entry hentry
      rcases hconsistent.denoted _ (List.mem_cons_of_mem _ hhandle) with
        ⟨later, hlater, hlaterId, hserial⟩
      simp only [WorkspaceRegistry.withNew, KeyedTable.mem_upsert] at hlater
      rcases hlater with heq | ⟨-, hne⟩
      case inl =>
        have hold := hsound.serials entry hentry
        rw [heq] at hserial
        have hnew : (history.registry.newWorkspace root).serial =
            history.registry.nextSerial := rfl
        rw [hnew] at hserial
        omega
      case inr => exact hne (hlaterId.trans hid)

end Steps

theorem start_sound (environment : RepositoryEnvironment) : start.Sound environment := by
  constructor
  case toConsistent =>
    constructor <;> simp [start, WorkspaceRegistry.empty]
  case ownIds => simp [start, WorkspaceRegistry.empty]
  case serials => simp [start, WorkspaceRegistry.empty]
  case handled => simp [start, WorkspaceRegistry.empty]
  case ownRoots => simp [start, WorkspaceRegistry.empty]

/-- The registry stays consistent exactly in the runs which open no new root under the id
of an open workspace. -/
theorem consistent_iff_unclaimed (environment : RepositoryEnvironment)
    (calls : List WorkspaceCall) :
    (∀ history ∈ reached (step environment) start calls, history.Consistent) ↔
      EveryStep (step environment) (Unclaimed environment) start calls := by
  apply forall_reached_iff (Sound environment)
  case hstep =>
    intro history call hsound hassumed
    constructor
    · intro hconsistent
      by_contra hclaimed
      exact hsound.not_consistent_of_claimed hclaimed hconsistent
    · intro hunclaimed
      exact (hsound.step hunclaimed).toConsistent
  case hgood =>
    intro history call hsound hassumed hconsistent
    apply hsound.step
    by_contra hclaimed
    exact hsound.not_consistent_of_claimed hclaimed hconsistent
  case hstate => exact start_sound environment
  case hassumed => exact EveryStep.of_forall (fun _ _ => trivial) start calls

def AlwaysConsistent : Prop :=
  ∀ (environment : RepositoryEnvironment) (calls : List WorkspaceCall),
    ∀ history ∈ reached (step environment) start calls, history.Consistent

namespace WorkspaceSample

def environment : RepositoryEnvironment :=
  { rootCandidate := fun path => .ok path
    supported := fun _ => true
    construct := fun _ => .ok ()
    stable := fun _ _ _ => rfl }

def calls : List WorkspaceCall := [.openWorkspace ["x", "app"], .openWorkspace ["y", "app"]]

end WorkspaceSample

/-- Two repositories with one directory name: the second takes the id of the first. -/
theorem not_always_consistent : ¬ AlwaysConsistent := by
  intro hall
  have hlast := hall WorkspaceSample.environment WorkspaceSample.calls
    ((start.step WorkspaceSample.environment (.openWorkspace ["x", "app"])).step
      WorkspaceSample.environment (.openWorkspace ["y", "app"])) (by simp [reached,
        WorkspaceSample.calls])
  rcases hlast.denoted ("workspace:app", 0) (by decide) with ⟨entry, hentry, -, hserial⟩
  have hnone : ∀ entry ∈ ((start.step WorkspaceSample.environment
      (.openWorkspace ["x", "app"])).step WorkspaceSample.environment
        (.openWorkspace ["y", "app"])).registry.workspacesById.rows,
          entry.2.serial ≠ 0 := by
    decide
  exact hnone entry hentry hserial

end RegistryHistory

end SuitCode
