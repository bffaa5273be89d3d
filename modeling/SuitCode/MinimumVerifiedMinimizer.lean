import SuitCode.MinimumVerifiedItems

/-!
# The minimizer

Selection among the related tests of a target, selection of the narrowest
build surface, and the runner item.  Items of one list which Python tells
apart by identity are told apart here by their position.
-/

namespace SuitCode

open PosixText KeyedList

structure ResolvedDependentComponent where
  component : Component
  dependencyEdges : List ComponentDependencyEdge
  deriving DecidableEq, Repr

def ResolvedDependentComponent.dependencyProvenance
    (dependent : ResolvedDependentComponent) : List ProvenanceEntry :=
  mergedProvenance (dependent.dependencyEdges.map ComponentDependencyEdge.provenance)

/-! ## Ranking of related tests -/

def specificityRank (related : ResolvedRelatedTest) : ℕ :=
  if related.matchedRepositoryRelPath.isSome then 0
  else if related.matchedOwnerId.isSome then 1
  else 2

/-- `value or fallback` for an optional text. -/
def orText (value fallback : Option String) : Option String :=
  match value with
  | some text => if text = "" then fallback else some text
  | none => fallback

def testMatchSortKey (related : ResolvedRelatedTest) : ℕ ×ₗ ℕ ×ₗ String ×ₗ String :=
  toLex (specificityRank related, toLex (if related.isAuthoritative then 0 else 1,
    toLex (related.relationReason.value,
      (orText related.matchedRepositoryRelPath related.matchedOwnerId).getD "")))

def exactFileReason : String := "exact file-related test"

def dependentTestReason : String := "direct dependent component test"

def sameOwnerReason : String := "same owner/component test"

def broadFallbackReason : String := "broad fallback test suite"

def humanTestReason (related : ResolvedRelatedTest) : String :=
  if related.matchedRepositoryRelPath.isSome then exactFileReason
  else if related.relationReason = .dependentComponent then dependentTestReason
  else if related.matchedOwnerId.isSome then sameOwnerReason
  else broadFallbackReason

def isBroad (related : ResolvedRelatedTest) : Bool :=
  related.matchedRepositoryRelPath.isNone && related.matchedOwnerId.isNone

/-! ## Tests -/

def candidatesFor (related : List ResolvedRelatedTest) (testId : String) :
    List ResolvedRelatedTest :=
  related.filter fun candidate => candidate.testId = testId

def relatedTestIds (related : List ResolvedRelatedTest) : List String :=
  sortedBy id (dedupeBy id (related.map ResolvedRelatedTest.testId))

def rankedCandidates (candidates : List ResolvedRelatedTest) :
    List (ResolvedRelatedTest × ℕ) :=
  sortedBy (fun entry => testMatchSortKey entry.1) candidates.zipIdx

def duplicateExclusion (testId : String) (candidate : ResolvedRelatedTest) :
    PyResult ExcludedMinimumVerifiedItem :=
  exclusion .testTarget testId .duplicateReplacedByStrongerMatch
    "weaker duplicate test match replaced by stronger deterministic match" [testId]
    candidate.provenance

def minimizeTestGroup (repository : Repository) (targetAnchorId : String)
    (related : List ResolvedRelatedTest) (testId : String) :
    PyResult (MinimumVerifiedTestTarget × List ExcludedMinimumVerifiedItem) :=
  let candidates := candidatesFor related testId
  match rankedCandidates candidates with
  | [] => .error .indexError
  | (selected, position) :: _ => do
      let exclusions ←
        (candidates.zipIdx.filter fun entry => entry.2 ≠ position).mapM
          fun entry => duplicateExclusion testId entry.1
      let description ← repository.describeTestTarget testId
      let item ← testItem targetAnchorId selected description (humanTestReason selected)
      pure (item, exclusions)

def hasSpecificTest (related : List ResolvedRelatedTest)
    (included : List MinimumVerifiedTestTarget) : Bool :=
  included.any fun item =>
    item.testId ≠ "" &&
      related.any fun candidate => candidate.testId = item.testId && !isBroad candidate

def judgedMatch (related : List ResolvedRelatedTest) (testId inclusionReason : String) :
    PyResult ResolvedRelatedTest :=
  match related.find? fun candidate =>
      candidate.testId = testId && humanTestReason candidate = inclusionReason with
  | some candidate => .ok candidate
  | none => .error .stopIteration

def broadExclusion? (related : List ResolvedRelatedTest)
    (included : List MinimumVerifiedTestTarget) (entry : MinimumVerifiedTestTarget × ℕ) :
    PyResult (Option ExcludedMinimumVerifiedItem) := do
  let selected ← judgedMatch related entry.1.testId entry.1.inclusionReason
  if isBroad selected then
    let excluded ← exclusion .testTarget entry.1.testId .broadTestReplacedBySpecificTests
      "broad fallback suite replaced by more specific related tests"
      (sortedBy id ((included.eraseIdx entry.2).map MinimumVerifiedTestTarget.testId))
      entry.1.provenance
    pure (some excluded)
  else
    pure none

structure MinimizedTests where
  tests : List MinimumVerifiedTestTarget
  exclusions : List ExcludedMinimumVerifiedItem
  deriving DecidableEq, Repr

def minimizeTests (repository : Repository) (targetAnchorId : String)
    (related : List ResolvedRelatedTest) : PyResult MinimizedTests := do
  let groups ← (relatedTestIds related).mapM
    (minimizeTestGroup repository targetAnchorId related)
  let included := groups.map Prod.fst
  let duplicates := groups.flatMap Prod.snd
  if !hasSpecificTest related included then
    pure ⟨included, duplicates⟩
  else
    let verdicts ← included.zipIdx.mapM (broadExclusion? related included)
    let kept := ((included.zip verdicts).filter fun entry => entry.2.isNone).map Prod.fst
    pure ⟨kept, duplicates ++ verdicts.filterMap id⟩

/-! ## Build targets -/

def componentBuildTargets (primaryComponent : Option Component)
    (targets : List BuildTargetDescription) : List BuildTargetDescription :=
  targets.filter fun target =>
    primaryComponent.any fun component =>
      target.targetKind = .component && target.targetId = component.id

def ownerBuildTargets (owner : OwnedNodeInfo) (primaryComponent : Option Component)
    (targets : List BuildTargetDescription) : List BuildTargetDescription :=
  targets.filter fun target =>
    target.targetKind = .component &&
      (owner.id ∈ target.ownerIds ||
        primaryComponent.any fun component => component.id ∈ target.ownerIds)

def narrowOwnerBuildTargets (owner : OwnedNodeInfo) (primaryComponent : Option Component)
    (targets : List BuildTargetDescription) : List BuildTargetDescription :=
  sortedBy BuildTargetDescription.actionId
    (dedupeBy BuildTargetDescription.actionId
      (ownerBuildTargets owner primaryComponent targets).reverse)

def repositoryBuildTargets (targets : List BuildTargetDescription) :
    List BuildTargetDescription :=
  targets.filter fun target => target.targetKind = .repository

def repositoryBuildExclusion (reason : String) (replacements : List BuildTargetDescription)
    (target : BuildTargetDescription) : PyResult ExcludedMinimumVerifiedItem :=
  exclusion .buildTarget target.actionId .repositoryBuildReplacedByNarrowerBuild reason
    (replacements.map BuildTargetDescription.actionId) target.provenance

def dependentBuildTargets (dependents : List ResolvedDependentComponent)
    (targets : List BuildTargetDescription) :
    List (ResolvedDependentComponent × BuildTargetDescription) :=
  dependents.flatMap fun dependent =>
    (targets.filter fun target =>
      target.targetKind = .component && target.targetId = dependent.component.id).map
        fun target => (dependent, target)

def narrowDependentBuildTargets (dependents : List ResolvedDependentComponent)
    (targets : List BuildTargetDescription) :
    List (ResolvedDependentComponent × BuildTargetDescription) :=
  dedupeBy (fun entry => entry.2.actionId)
    (sortedBy (fun entry => entry.2.actionId) (dependentBuildTargets dependents targets))

structure MinimizedBuildTargets where
  buildTargets : List MinimumVerifiedBuildTarget
  exclusions : List ExcludedMinimumVerifiedItem
  deriving DecidableEq, Repr

def componentBuildReason : String :=
  "component-scoped build target is the narrowest deterministic build surface"

def ownerBuildReason : String :=
  "owner-associated build target is the narrowest deterministic build surface"

def dependentBuildReason : String :=
  "directly dependent buildable component is the narrowest deterministic build surface"

def repositoryBuildReason : String :=
  "repository-wide build target is the only deterministic build surface"

def includeNarrowBuildTargets (repositoryTargets narrow : List BuildTargetDescription)
    (exclusionReason : String)
    (item : BuildTargetDescription → PyResult MinimumVerifiedBuildTarget) :
    PyResult MinimizedBuildTargets := do
  let exclusions ←
    repositoryTargets.mapM (repositoryBuildExclusion exclusionReason narrow)
  let buildTargets ← narrow.mapM item
  pure ⟨buildTargets, exclusions⟩

def minimizeBuildTargets (owner : OwnedNodeInfo) (primaryComponent : Option Component)
    (targets : List BuildTargetDescription)
    (dependents : List ResolvedDependentComponent) : PyResult MinimizedBuildTargets :=
  let componentTargets := componentBuildTargets primaryComponent targets
  let narrowOwnerTargets := narrowOwnerBuildTargets owner primaryComponent targets
  let repositoryTargets := repositoryBuildTargets targets
  -- component targets exist only when there is a primary component
  let primaryComponentId := (primaryComponent.map Component.id).getD ""
  if !componentTargets.isEmpty then
    includeNarrowBuildTargets repositoryTargets componentTargets
      "repository-wide build target replaced by narrower component-scoped build target"
      (buildItem "component" primaryComponentId componentBuildReason .componentBuildTarget)
  else if !narrowOwnerTargets.isEmpty then
    includeNarrowBuildTargets repositoryTargets narrowOwnerTargets
      "repository-wide build target replaced by narrower owner-associated build target"
      (buildItem "owner" owner.id ownerBuildReason .ownerBuildTarget)
  else if !(dependentBuildTargets dependents targets).isEmpty && primaryComponent.isSome then do
    let buildTargets ← (narrowDependentBuildTargets dependents targets).mapM fun entry =>
      dependentBuildItem primaryComponentId entry.2 entry.1.dependencyProvenance
        dependentBuildReason
    pure ⟨buildTargets, []⟩
  else do
    let buildTargets ← repositoryTargets.mapM
      (buildItem "owner" owner.id repositoryBuildReason .ownerBuildTarget)
    pure ⟨buildTargets, []⟩

/-! ## Runners -/

def runnerItems (owner : OwnedNodeInfo) (actions : List RepositoryAction) :
    PyResult (List MinimumVerifiedRunnerAction) :=
  match actions with
  | [action] => do
      let item ← runnerItem owner.id action
      pure [item]
  | _ =>
      raiseValueError
        ("runner owner `" ++ owner.id ++
          "` must resolve to exactly one runner execution action")

end SuitCode
