import SuitCode.Library.RankedClaims
import SuitCode.NpmDependencies

/-!
# The file inventory of an npm workspace

Runners, tests, components, aggregators and package managers claim files, and a file goes
to the claim of the best precedence.  The analysis fails where a script or an entry of a
manifest leads out of the repository, where a listing of tests fails, and where two owners
claim a file with one precedence.
-/

namespace SuitCode

open PosixText KeyedList ExceptList RankedClaims

/-! ## The claims -/

def claimsOf (kind : NpmOwnerKind) (named : NamedFiles) : List FileAssignment :=
  named.paths.map fun path => ⟨path, named.ownerId, kind.priority⟩

def inventoryClaims (runners tests components aggregators packageManagers : List NamedFiles) :
    List FileAssignment :=
  runners.flatMap (claimsOf .runner) ++ tests.flatMap (claimsOf .test) ++
    components.flatMap (claimsOf .package) ++ aggregators.flatMap (claimsOf .package) ++
      packageManagers.flatMap (claimsOf .manager)

def componentFiles (tree : FileTree) (root : List String) (analysis : NpmPackageAnalysis) :
    NamedFiles :=
  ⟨npmComponentId analysis.packageName, packageFiles tree root analysis⟩

namespace NpmAttachment

def claims (npm : NpmAttachment) : PyResult (List FileAssignment) := do
  let components ← analyzeComponents npm.tree npm.workspace
  let aggregators ← analyzeAggregators npm.workspace
  let runners ← analyzeRunners npm.tree npm.workspace
  let tests ← analyzeTests npm.tree npm.tools npm.workspace
  let packageManagers ← analyzePackageManagers npm.tree npm.workspace
  let runnerFiles ← runners.mapM npm.runnerFiles
  pure (inventoryClaims runnerFiles
    (tests.map fun item => ⟨npmTestId item.packageName, item.testFiles⟩)
    (components.map (componentFiles npm.tree npm.workspace.repositoryRoot))
    (aggregators.map fun item => ⟨npmAggregatorId item.packageName, [item.manifestPath]⟩)
    (packageManagers.map fun item => ⟨item.nodeId, item.ownedFiles⟩))

/-- `NpmWorkspaceAnalyzer.analyze_files`. -/
def analyzeFiles (npm : NpmAttachment) : PyResult (List FileAssignment) := do
  let components ← analyzeComponents npm.tree npm.workspace
  let aggregators ← analyzeAggregators npm.workspace
  let runners ← analyzeRunners npm.tree npm.workspace
  let tests ← analyzeTests npm.tree npm.tools npm.workspace
  let packageManagers ← analyzePackageManagers npm.tree npm.workspace
  let runnerFiles ← runners.mapM npm.runnerFiles
  buildInventory npm.tree npm.workspace.repositoryRoot components
    (aggregators.map fun item => ⟨npmAggregatorId item.packageName, [item.manifestPath]⟩)
    runnerFiles
    (tests.map fun item => ⟨npmTestId item.packageName, item.testFiles⟩)
    (packageManagers.map fun item => ⟨item.nodeId, item.ownedFiles⟩)

end NpmAttachment

def ambiguousOwnership (current assigned : FileAssignment) : PyError :=
  .valueError
    ("ambiguous file ownership for " ++ assigned.path ++ ": " ++ current.ownerId ++ " vs " ++
      assigned.ownerId)

def assignClaims (claims : List FileAssignment) : PyResult (List FileAssignment) :=
  claims.foldlM
    (record FileAssignment.path FileAssignment.ownerId FileAssignment.priority
      ambiguousOwnership)
    []

theorem assign_eq_record (ownerId : String) (kind : NpmOwnerKind)
    (assignments : List FileAssignment) (path : String) :
    assign ownerId kind assignments path =
      record FileAssignment.path FileAssignment.ownerId FileAssignment.priority
        ambiguousOwnership assignments ⟨path, ownerId, kind.priority⟩ := by
  unfold assign record leader?
  cases assignments.find? fun current => current.path = path with
  | none => rfl
  | some current => rfl

theorem foldlM_assignNamed (kind : NpmOwnerKind) (named : List NamedFiles)
    (assignments : List FileAssignment) :
    named.foldlM (assignNamed kind) assignments =
      (named.flatMap (claimsOf kind)).foldlM
        (record FileAssignment.path FileAssignment.ownerId FileAssignment.priority
          ambiguousOwnership) assignments := by
  induction named generalizing assignments with
  | nil => rfl
  | cons owner named ih =>
      have hfirst : assignNamed kind assignments owner =
          (claimsOf kind owner).foldlM
            (record FileAssignment.path FileAssignment.ownerId FileAssignment.priority
              ambiguousOwnership) assignments := by
        unfold assignNamed claimsOf
        rw [List.foldlM_map]
        congr 1
        funext state path
        exact assign_eq_record owner.ownerId kind state path
      rw [List.foldlM_cons, List.flatMap_cons, List.foldlM_append, hfirst]
      congr 1
      funext state
      exact ih state

/-- The inventory is the recorded claims, from the best owners down. -/
theorem buildInventory_eq (tree : FileTree) (root : List String)
    (components : List NpmPackageAnalysis)
    (aggregators runners tests packageManagers : List NamedFiles) :
    buildInventory tree root components aggregators runners tests packageManagers =
      (do
        let assignments ← assignClaims (inventoryClaims runners tests
          (components.map (componentFiles tree root)) aggregators packageManagers)
        pure (sortedBy FileAssignment.path assignments)) := by
  simp only [buildInventory, assignClaims, inventoryClaims, foldlM_assignNamed,
    List.foldlM_append, bind_assoc]
  rfl

namespace NpmAttachment

theorem analyzeFiles_eq (npm : NpmAttachment) :
    npm.analyzeFiles = (do
      let claims ← npm.claims
      let assignments ← assignClaims claims
      pure (sortedBy FileAssignment.path assignments)) := by
  simp only [analyzeFiles, claims, buildInventory_eq, bind_assoc, pure_bind]

end NpmAttachment

theorem priority_of_mem_claims {kind : NpmOwnerKind} {named : List NamedFiles}
    {claim : FileAssignment} (hclaim : claim ∈ named.flatMap (claimsOf kind)) :
    claim.priority = kind.priority := by
  simp only [List.mem_flatMap, claimsOf, List.mem_map] at hclaim
  obtain ⟨owner, -, path, -, rfl⟩ := hclaim
  rfl

theorem ordered_append_claims {earlier : List FileAssignment} (kind : NpmOwnerKind)
    (named : List NamedFiles)
    (hearlier : earlier.Pairwise fun left right => left.priority ≤ right.priority)
    (hbetter : ∀ claim ∈ earlier, claim.priority ≤ kind.priority) :
    (earlier ++ named.flatMap (claimsOf kind)).Pairwise
        (fun left right => left.priority ≤ right.priority) ∧
      ∀ claim ∈ earlier ++ named.flatMap (claimsOf kind), claim.priority ≤ kind.priority := by
  have hkind : ∀ claim ∈ named.flatMap (claimsOf kind), claim.priority = kind.priority :=
    fun claim hclaim => priority_of_mem_claims hclaim
  constructor
  · rw [List.pairwise_append]
    refine ⟨hearlier, ?_, ?_⟩
    · apply List.pairwise_of_forall_mem_list
      intro left hleft right hright
      rw [hkind left hleft, hkind right hright]
    · intro left hleft right hright
      rw [hkind right hright]
      exact hbetter left hleft
  · rw [List.forall_mem_append]
    exact ⟨hbetter, fun claim hclaim => (hkind claim hclaim).le⟩

theorem inventoryClaims_ordered
    (runners tests components aggregators packageManagers : List NamedFiles) :
    (inventoryClaims runners tests components aggregators packageManagers).Pairwise
      fun left right => left.priority ≤ right.priority := by
  have hrunners := ordered_append_claims .runner runners
    (List.Pairwise.nil : ([] : List FileAssignment).Pairwise _) (by simp)
  have htests := ordered_append_claims .test tests hrunners.1 fun claim hclaim =>
    (hrunners.2 claim hclaim).trans (by decide)
  have hcomponents := ordered_append_claims .package components htests.1 fun claim hclaim =>
    (htests.2 claim hclaim).trans (by decide)
  have haggregators := ordered_append_claims .package aggregators hcomponents.1 hcomponents.2
  exact (ordered_append_claims .manager packageManagers haggregators.1 fun claim hclaim =>
    (haggregators.2 claim hclaim).trans (by decide)).1

/-! ## What the analysis gives -/

/-- Every claimed path is assigned once, and each file to one owner, one of those who claim
it with the best precedence; `fileOf` says which paths are the same file. -/
structure AssignsBest {φ : Type} (fileOf : String → φ) (claims items : List FileAssignment) :
    Prop where
  paths_nodup : (items.map FileAssignment.path).Nodup
  covers : ∀ claim ∈ claims, ∃ item ∈ items, item.path = claim.path
  owned : OneOwner fileOf FileAssignment.path FileAssignment.ownerId FileAssignment.priority
    claims items

def ClaimsSettled {φ : Type} (fileOf : String → φ) (claims : List FileAssignment) : Prop :=
  Settled fileOf FileAssignment.path FileAssignment.ownerId FileAssignment.priority claims

namespace NpmAttachment

theorem analyzeFiles_yields_iff {φ : Type} (npm : NpmAttachment) (fileOf : String → φ) :
    (npm.analyzeFiles.Yields fun items =>
        ∃ claims, npm.claims = .ok claims ∧ AssignsBest fileOf claims items) ↔
      ∃ claims, npm.claims = .ok claims ∧ ClaimsSettled fileOf claims := by
  rw [analyzeFiles_eq]
  constructor
  · intro hyields
    obtain ⟨items, hrun, claims, hclaims, hassigns⟩ := hyields.exists_ok
    simp only [hclaims, ok_bind, bind_eq_ok, pure_eq_ok] at hrun
    obtain ⟨held, hheld, hitems⟩ := hrun
    have hrecorded := (recorded_of_run hheld).perm (sortedBy_perm FileAssignment.path held)
    rw [hitems] at hrecorded
    exact ⟨claims, hclaims, hrecorded.oneOwner_iff.mp hassigns.owned⟩
  · intro hexists
    obtain ⟨claims, hclaims, hsettled⟩ := hexists
    have hordered : claims.Pairwise fun left right => left.priority ≤ right.priority := by
      simp only [NpmAttachment.claims, bind_eq_ok, pure_eq_ok] at hclaims
      obtain ⟨-, -, -, -, -, -, -, -, -, -, -, -, rfl⟩ := hclaims
      exact inventoryClaims_ordered _ _ _ _ _
    obtain ⟨held, hheld⟩ := RankedClaims.exists_run ambiguousOwnership hordered hsettled.keys
    have hrecorded := (recorded_of_run hheld).perm (sortedBy_perm FileAssignment.path held)
    simp only [hclaims, ok_bind, assignClaims, hheld]
    apply PyResult.Yields.ok
    refine ⟨claims, rfl, hrecorded.keys_nodup, hrecorded.covers, ?_⟩
    exact hrecorded.oneOwner_iff.mpr hsettled

end NpmAttachment

end SuitCode
