import SuitCode.ChangeEvidence
import SuitCode.EvidencePaths

/-!
# Truth coverage

A summary says of every domain of a repository how far its facts can be relied on.  Architecture
is counted by its entities, the other domains by the runtime capabilities of their providers.  A
domain which counts nothing is not available, but for the quality domain.
-/

namespace SuitCode

open ExceptList KeyedList PosixText TruthCoverageService

/-! ## Runtime capabilities -/

inductive RuntimeCapabilityAvailability where
  | available
  | degraded
  | unavailable
  deriving DecidableEq, Repr

structure RuntimeCapability where
  capabilityId : String
  availability : RuntimeCapabilityAvailability
  sourceKind : SourceKind
  sourceTool : Option String
  reason : Option String
  provenance : List ProvenanceEntry
  reason_given : availability ≠ .available → reason ≠ none
  reason_nonblank : reason.any isBlank = false
  provenance_given : provenance ≠ []
  tools_nonblank : ∀ entry ∈ provenance, entry.sourceTool.any isBlank = false

structure CodeRuntimeCapabilities where
  symbolSearch : RuntimeCapability
  symbolsInFile : RuntimeCapability
  definitions : RuntimeCapability
  references : RuntimeCapability
  implementations : RuntimeCapability

structure TestRuntimeCapabilities where
  discovery : RuntimeCapability
  execution : RuntimeCapability

structure QualityRuntimeCapabilities where
  lint : RuntimeCapability
  format : RuntimeCapability

structure ActionRuntimeCapabilities where
  tests : RuntimeCapability
  builds : RuntimeCapability
  runners : RuntimeCapability

/-! ## Domains -/

def TruthActionCapability.value : TruthActionCapability → String
  | .tests => "tests"
  | .builds => "builds"
  | .runners => "runners"

/-- `_DomainAccumulator`; the items of a counter are kept as they come. -/
structure DomainAccumulator where
  domain : TruthCoverageDomain
  totalEntities : ℕ := 0
  authoritativeCount : ℕ := 0
  derivedCount : ℕ := 0
  heuristicCount : ℕ := 0
  unavailableCount : ℕ := 0
  sourceKinds : List SourceKind := []
  sourceTools : List String := []
  availability : TruthAvailability := .unavailable
  degradedReason : Option String := none
  executionAvailable : Option Bool := none
  actionCapabilities : List (TruthActionCapability × Bool) := []
  deriving DecidableEq, Repr

namespace DomainAccumulator

def counted (accumulator : DomainAccumulator) : ConfidenceMode → DomainAccumulator
  | .authoritative =>
      { accumulator with
        totalEntities := accumulator.totalEntities + 1
        authoritativeCount := accumulator.authoritativeCount + 1 }
  | .derived =>
      { accumulator with
        totalEntities := accumulator.totalEntities + 1
        derivedCount := accumulator.derivedCount + 1 }
  | .heuristic =>
      { accumulator with
        totalEntities := accumulator.totalEntities + 1
        heuristicCount := accumulator.heuristicCount + 1 }

def addProvenanceItem (accumulator : DomainAccumulator) (provenance : List ProvenanceEntry) :
    PyResult DomainAccumulator := do
  let confidence ← preferredConfidenceMode provenance
  let sourceKind ← preferredSourceKind provenance
  let sourceTool ← preferredSourceTool provenance
  pure
    { accumulator.counted confidence with
      sourceKinds := accumulator.sourceKinds ++ [sourceKind]
      sourceTools := accumulator.sourceTools ++ sourceTool.toList }

def addUnavailable (accumulator : DomainAccumulator) (count : ℕ) (reason : Option String) :
    DomainAccumulator :=
  { accumulator with
    totalEntities := accumulator.totalEntities + count
    unavailableCount := accumulator.unavailableCount + count
    degradedReason := accumulator.degradedReason.or reason }

def toDomain (accumulator : DomainAccumulator) : TruthCoverageByDomain :=
  { domain := accumulator.domain
    totalEntities := accumulator.totalEntities
    authoritativeCount := accumulator.authoritativeCount
    derivedCount := accumulator.derivedCount
    heuristicCount := accumulator.heuristicCount
    unavailableCount := accumulator.unavailableCount
    availability := accumulator.availability
    degradedReason := accumulator.degradedReason
    sourceKindMix := counter accumulator.sourceKinds
    sourceToolMix := counter accumulator.sourceTools
    executionAvailable := accumulator.executionAvailable
    actionCapabilities := accumulator.actionCapabilities }

def finalize (accumulator : DomainAccumulator) : PyResult TruthCoverageByDomain :=
  validated (domainChecks accumulator.toDomain) accumulator.toDomain

/-- `_apply_runtime_capability`, with the reasons so far. -/
def applyRuntimeCapability (state : DomainAccumulator × List String)
    (capability : RuntimeCapability) : PyResult (DomainAccumulator × List String) := do
  if capability.availability = .available then
    let accumulator ← state.1.addProvenanceItem capability.provenance
    pure (accumulator, state.2)
  else
    pure (state.1.addUnavailable 1 capability.reason, state.2 ++ capability.reason.toList)

end DomainAccumulator

/-- `"; ".join(sorted(set(reasons)))`. -/
def joinedReasons (reasons : List String) : String := join "; " (sortedBy id (dedupeBy id reasons))

/-! ## The repository -/

structure CoverageProvider where
  key : String × String
  roles : List ProviderRole
  code : CodeRuntimeCapabilities
  tests : TestRuntimeCapabilities
  quality : List String → QualityRuntimeCapabilities
  actions : Option ActionRuntimeCapabilities

/-- What the service asks of a repository: the provenance of the entities of its architecture,
the paths relevant to quality, and the quality providers of a file, which are none where the
file is not relevant. -/
structure CoverageRepository where
  id : String
  providers : List CoverageProvider
  architectureProvenance : List (List ProvenanceEntry)
  relevantRepositoryRelPaths : List String
  qualityProvidersForFile : String → List CoverageProvider
  id_nonblank : isBlank id = false
  provenance_given : ∀ provenance ∈ architectureProvenance, provenance ≠ []
  tools_nonblank : ∀ provenance ∈ architectureProvenance, ∀ entry ∈ provenance,
    entry.sourceTool.any isBlank = false

namespace CoverageRepository

variable (repository : CoverageRepository)

def providersForRole (role : ProviderRole) : List CoverageProvider :=
  repository.providers.filter fun provider => role ∈ provider.roles

def supportsRole (role : ProviderRole) : Bool :=
  repository.providers.any fun provider => role ∈ provider.roles

def codeCapabilities : List CodeRuntimeCapabilities :=
  (repository.providersForRole .code).map CoverageProvider.code

def testCapabilities : List TestRuntimeCapabilities :=
  (repository.providersForRole .test).map CoverageProvider.tests

def qualityProvidersForFiles (repositoryRelPaths : List String) : List CoverageProvider :=
  dedupeBy CoverageProvider.key (repositoryRelPaths.flatMap repository.qualityProvidersForFile)

def qualityCapabilities (repositoryRelPaths : List String) : List QualityRuntimeCapabilities :=
  (repository.qualityProvidersForFiles repositoryRelPaths).map fun provider =>
    provider.quality repositoryRelPaths

def actionCapabilities : List ActionRuntimeCapabilities :=
  repository.providers.filterMap CoverageProvider.actions

/-! ## The domains -/

def architectureDomain : PyResult TruthCoverageByDomain := do
  let accumulator ← repository.architectureProvenance.foldlM
    DomainAccumulator.addProvenanceItem { domain := .architecture }
  if !repository.supportsRole .architecture then
    DomainAccumulator.finalize
      { accumulator with
        availability := .unavailable
        degradedReason := some "repository has no architecture provider" }
  else if accumulator.totalEntities = 0 then
    DomainAccumulator.finalize
      { accumulator with
        availability := .degraded
        degradedReason :=
          some "architecture provider exists but no architecture entities were produced" }
  else
    DomainAccumulator.finalize { accumulator with availability := .available }

def codeOperationCount : ℕ := 5

def codeDomain : PyResult TruthCoverageByDomain := do
  let accumulator : DomainAccumulator := { domain := .code }
  if !repository.supportsRole .code then
    DomainAccumulator.finalize
      { accumulator.addUnavailable codeOperationCount
          (some "repository has no code intelligence provider") with
        availability := .unavailable }
  else
    let capabilities := repository.codeCapabilities.flatMap fun capabilities =>
      [capabilities.symbolSearch, capabilities.symbolsInFile, capabilities.definitions,
        capabilities.references, capabilities.implementations]
    let (accumulator, reasons) ← capabilities.foldlM DomainAccumulator.applyRuntimeCapability
      (accumulator, [])
    let availability : TruthAvailability :=
      if accumulator.unavailableCount = accumulator.totalEntities then .degraded
      else if accumulator.unavailableCount > 0 then .degraded
      else .available
    DomainAccumulator.finalize
      { accumulator with
        availability := availability
        degradedReason :=
          if reasons ≠ [] then some (joinedReasons reasons) else accumulator.degradedReason }

def testsDomain : PyResult TruthCoverageByDomain := do
  let accumulator : DomainAccumulator := { domain := .tests }
  if !repository.supportsRole .test then
    DomainAccumulator.finalize
      { accumulator with
        availability := .unavailable
        degradedReason := some "repository has no test provider" }
  else
    let capabilities := repository.testCapabilities.flatMap fun capabilities =>
      [capabilities.discovery, capabilities.execution]
    let (accumulator, reasons) ← capabilities.foldlM DomainAccumulator.applyRuntimeCapability
      (accumulator, [])
    if accumulator.totalEntities = 0 then
      DomainAccumulator.finalize
        { accumulator with
          availability := .unavailable
          degradedReason :=
            some "test provider exists but exposes no runtime test capabilities" }
    else if accumulator.unavailableCount > 0 then
      DomainAccumulator.finalize
        { accumulator with
          availability := .degraded
          degradedReason :=
            if reasons ≠ [] then some (joinedReasons reasons)
            else some "test capability is partially unavailable" }
    else if accumulator.authoritativeCount = 0 ∧ accumulator.heuristicCount > 0 then
      DomainAccumulator.finalize
        { accumulator with
          availability := .degraded
          degradedReason := some "test capability is available only through heuristic fallback" }
    else
      DomainAccumulator.finalize { accumulator with availability := .available }

def qualityDomain : PyResult TruthCoverageByDomain := do
  let accumulator : DomainAccumulator := { domain := .quality }
  if (repository.providersForRole .quality).isEmpty then
    DomainAccumulator.finalize
      { accumulator with
        availability := .unavailable
        executionAvailable := some false
        degradedReason := some "repository has no quality provider" }
  else
    let capabilities :=
      (repository.qualityCapabilities repository.relevantRepositoryRelPaths).flatMap
        fun capabilities => [capabilities.lint, capabilities.format]
    let (accumulator, reasons) ← capabilities.foldlM DomainAccumulator.applyRuntimeCapability
      (accumulator, [])
    let executionAvailable :=
      decide (accumulator.unavailableCount = 0) && decide (accumulator.totalEntities > 0)
    if accumulator.unavailableCount = 0 then
      DomainAccumulator.finalize
        { accumulator with
          executionAvailable := some executionAvailable
          availability := .available }
    else
      DomainAccumulator.finalize
        { accumulator with
          executionAvailable := some executionAvailable
          availability := .degraded
          degradedReason :=
            some (joinedReasons
              (if reasons ≠ [] then reasons
              else [accumulator.degradedReason.getD "quality capability is partially unavailable"])) }

def actionsDomain : PyResult TruthCoverageByDomain := do
  let snapshots := repository.actionCapabilities
  let capabilities := snapshots.flatMap fun snapshot =>
    [snapshot.tests, snapshot.builds, snapshot.runners]
  let (accumulator, reasons) ← capabilities.foldlM DomainAccumulator.applyRuntimeCapability
    ({ domain := .actions }, [])
  let flags : List (TruthActionCapability × Bool) :=
    [(.tests, snapshots.any fun snapshot => snapshot.tests.availability = .available),
      (.builds, snapshots.any fun snapshot => snapshot.builds.availability = .available),
      (.runners, snapshots.any fun snapshot => snapshot.runners.availability = .available)]
  let accumulator :=
    { accumulator with
      actionCapabilities := flags
      executionAvailable := some (flags.any Prod.snd) }
  let missing := (flags.filter fun entry => !entry.2).map fun entry => entry.1.value
  if snapshots.isEmpty then
    DomainAccumulator.finalize
      { accumulator with
        availability := .unavailable
        degradedReason := some "no deterministic actions were discovered" }
  else if missing ≠ [] then
    DomainAccumulator.finalize
      { accumulator with
        availability := .degraded
        degradedReason :=
          if reasons ≠ [] then some (joinedReasons reasons)
          else some ("deterministic actions are missing for: " ++ join ", " (sortedBy (fun name => name) missing)) }
  else
    DomainAccumulator.finalize
      { accumulator with availability := .available, degradedReason := none }

end CoverageRepository

/-! ## The summary -/

/-- `repository_truth_coverage`. -/
def CoverageRepository.truthCoverage (repository : CoverageRepository) :
    PyResult TruthCoverageSummary := do
  let architecture ← repository.architectureDomain
  let code ← repository.codeDomain
  let tests ← repository.testsDomain
  let quality ← repository.qualityDomain
  let actions ← repository.actionsDomain
  summaryOf "repository" repository.id
    [architecture, code, tests, quality, actions]

variable {capabilities : List RuntimeCapability} {reasons : List String}

/-! ## Counted entities -/

namespace DomainAccumulator

structure Balanced (accumulator : DomainAccumulator) : Prop where
  counts : accumulator.authoritativeCount + accumulator.derivedCount +
    accumulator.heuristicCount + accumulator.unavailableCount = accumulator.totalEntities
  tools : ∀ tool ∈ accumulator.sourceTools, isBlank tool = false

/-- An accumulator whose fields other than the counters are those of another. -/
structure SameReport (accumulator other : DomainAccumulator) : Prop where
  domain : accumulator.domain = other.domain
  executionAvailable : accumulator.executionAvailable = other.executionAvailable
  actionCapabilities : accumulator.actionCapabilities = other.actionCapabilities

section Counting

variable {accumulator : DomainAccumulator} {provenance : List ProvenanceEntry}

theorem preferredSourceTool_nonblank {tool : String}
    (htools : ∀ entry ∈ provenance, entry.sourceTool.any isBlank = false)
    (htool : provenance.findSome? ProvenanceEntry.sourceTool = some tool) :
    isBlank tool = false := by
  obtain ⟨entry, hentry, heq⟩ := List.exists_of_findSome?_eq_some htool
  have hnonblank := htools entry hentry
  rw [heq] at hnonblank
  exact hnonblank

theorem exists_preferredSourceKind (hgiven : provenance ≠ []) :
    ∃ kind, preferredSourceKind provenance = .ok kind := by
  cases provenance with
  | nil => exact absurd rfl hgiven
  | cons entry provenance => exact ⟨_, rfl⟩

theorem exists_preferredConfidenceMode (hgiven : provenance ≠ []) :
    ∃ mode, preferredConfidenceMode provenance = .ok mode := by
  unfold preferredConfidenceMode
  rw [if_neg hgiven]
  split_ifs with hauthoritative hderived
  · exact ⟨_, rfl⟩
  · exact ⟨_, rfl⟩
  · exact ⟨_, rfl⟩

theorem addProvenanceItem_spec (hbalanced : accumulator.Balanced) (hgiven : provenance ≠ [])
    (htools : ∀ entry ∈ provenance, entry.sourceTool.any isBlank = false) :
    ∃ next, accumulator.addProvenanceItem provenance = .ok next ∧ next.Balanced ∧
      next.SameReport accumulator ∧ next.degradedReason = accumulator.degradedReason ∧
      next.totalEntities = accumulator.totalEntities + 1 ∧
      next.unavailableCount = accumulator.unavailableCount := by
  obtain ⟨mode, hmode⟩ := exists_preferredConfidenceMode hgiven
  obtain ⟨kind, hkind⟩ := exists_preferredSourceKind hgiven
  have htool : preferredSourceTool provenance =
      .ok (provenance.findSome? ProvenanceEntry.sourceTool) := by
    rw [preferredSourceTool, if_neg hgiven]
  have hnonblank : ∀ tool ∈ (provenance.findSome? ProvenanceEntry.sourceTool).toList,
      isBlank tool = false := by
    intro tool hmem
    exact preferredSourceTool_nonblank htools (Option.mem_toList.mp hmem)
  have hnamed : ∀ tool ∈ accumulator.sourceTools ++
      (provenance.findSome? ProvenanceEntry.sourceTool).toList, isBlank tool = false := by
    intro tool hmem
    cases List.mem_append.mp hmem with
    | inl hearlier => exact hbalanced.tools tool hearlier
    | inr hnew => exact hnonblank tool hnew
  have hcounts := hbalanced.counts
  unfold addProvenanceItem
  rw [hmode, ok_bind, hkind, ok_bind, htool, ok_bind]
  cases mode with
  | authoritative =>
      exact ⟨_, rfl, ⟨by simp only [counted]; omega, hnamed⟩, ⟨rfl, rfl, rfl⟩, rfl, rfl, rfl⟩
  | derived =>
      exact ⟨_, rfl, ⟨by simp only [counted]; omega, hnamed⟩, ⟨rfl, rfl, rfl⟩, rfl, rfl, rfl⟩
  | heuristic =>
      exact ⟨_, rfl, ⟨by simp only [counted]; omega, hnamed⟩, ⟨rfl, rfl, rfl⟩, rfl, rfl, rfl⟩

end Counting

theorem addProvenanceItems_spec (domain : TruthCoverageDomain)
    {items : List (List ProvenanceEntry)} (hgiven : ∀ provenance ∈ items, provenance ≠ [])
    (htools : ∀ provenance ∈ items, ∀ entry ∈ provenance,
      entry.sourceTool.any isBlank = false) :
    ∃ accumulator, items.foldlM addProvenanceItem { domain := domain } = .ok accumulator ∧
      accumulator.Balanced ∧ accumulator.SameReport { domain := domain } ∧
      accumulator.degradedReason = none ∧ accumulator.totalEntities = items.length ∧
      accumulator.unavailableCount = 0 := by
  induction items using List.reverseRecOn with
  | nil => exact ⟨_, rfl, ⟨rfl, by simp⟩, ⟨rfl, rfl, rfl⟩, rfl, rfl, rfl⟩
  | append_singleton items provenance ih =>
      obtain ⟨accumulator, hrun, hbalanced, hsame, hreason, htotal, hunavailable⟩ :=
        ih (fun other hother => hgiven other (List.mem_append_left _ hother))
          (fun other hother => htools other (List.mem_append_left _ hother))
      have hlast : provenance ∈ items ++ [provenance] := by simp
      obtain ⟨next, hstep, hbalanced', hsame', hreason', htotal', hunavailable'⟩ :=
        addProvenanceItem_spec hbalanced (hgiven provenance hlast) (htools provenance hlast)
      use next
      refine ⟨foldlM_snoc_eq_ok.mpr ⟨accumulator, hrun, hstep⟩, hbalanced', ?_, ?_, ?_, ?_⟩
      · exact ⟨hsame'.domain.trans hsame.domain,
          hsame'.executionAvailable.trans hsame.executionAvailable,
          hsame'.actionCapabilities.trans hsame.actionCapabilities⟩
      · rw [hreason', hreason]
      · rw [htotal', htotal, List.length_append, List.length_singleton]
      · rw [hunavailable', hunavailable]

/-- What a walk over the snapshots makes of an accumulator and of the reasons. -/
structure Applied (domain : TruthCoverageDomain) (capabilities : List RuntimeCapability)
    (accumulator : DomainAccumulator) (reasons : List String) : Prop where
  balanced : accumulator.Balanced
  same : accumulator.SameReport { domain := domain }
  total : accumulator.totalEntities = capabilities.length
  unavailable : accumulator.unavailableCount =
    capabilities.countP fun capability => capability.availability ≠ .available
  reasons_length : reasons.length = accumulator.unavailableCount
  reasons_nonblank : ∀ reason ∈ reasons, isBlank reason = false
  degraded : accumulator.degradedReason = reasons.head?

variable {domain : TruthCoverageDomain}

theorem applyRuntimeCapability_spec {accumulator : DomainAccumulator}
    (happlied : Applied domain capabilities accumulator reasons) (capability : RuntimeCapability) :
    ∃ next reasons', applyRuntimeCapability (accumulator, reasons) capability =
        .ok (next, reasons') ∧
      Applied domain (capabilities ++ [capability]) next reasons' := by
  unfold applyRuntimeCapability
  by_cases hready : capability.availability = .available
  · obtain ⟨next, hstep, hbalanced, hsame, hreason, htotal, hunavailable⟩ :=
      addProvenanceItem_spec happlied.balanced capability.provenance_given
        capability.tools_nonblank
    rw [if_pos hready]
    rw [hstep, ok_bind]
    use next, reasons
    constructor
    · rfl
    · constructor
      case balanced => exact hbalanced
      case same =>
        exact ⟨hsame.domain.trans happlied.same.domain,
          hsame.executionAvailable.trans happlied.same.executionAvailable,
          hsame.actionCapabilities.trans happlied.same.actionCapabilities⟩
      case total => rw [htotal, happlied.total, List.length_append, List.length_singleton]
      case unavailable =>
        rw [hunavailable, happlied.unavailable, List.countP_append]
        simp [hready]
      case reasons_length => rw [hunavailable, happlied.reasons_length]
      case reasons_nonblank => exact happlied.reasons_nonblank
      case degraded => rw [hreason, happlied.degraded]
  · have hsome := capability.reason_given hready
    have hnonblank := capability.reason_nonblank
    rw [if_neg hready]
    cases hreason : capability.reason with
    | none => exact absurd hreason hsome
    | some reason =>
        rw [hreason] at hnonblank
        use accumulator.addUnavailable 1 (some reason), reasons ++ [reason]
        constructor
        · rfl
        · constructor
          case balanced =>
            have hcounts := happlied.balanced.counts
            constructor
            · simp only [addUnavailable]
              omega
            · exact happlied.balanced.tools
          case same =>
            exact ⟨happlied.same.domain, happlied.same.executionAvailable,
              happlied.same.actionCapabilities⟩
          case total =>
            rw [List.length_append, List.length_singleton, ← happlied.total]
            rfl
          case unavailable =>
            rw [List.countP_append, ← happlied.unavailable]
            simp [hready, addUnavailable]
          case reasons_length =>
            rw [List.length_append, List.length_singleton, happlied.reasons_length]
            rfl
          case reasons_nonblank =>
            intro other hother
            cases List.mem_append.mp hother with
            | inl hearlier => exact happlied.reasons_nonblank other hearlier
            | inr hnew =>
                rw [List.mem_singleton.mp hnew]
                exact hnonblank
          case degraded =>
            simp only [addUnavailable]
            rw [happlied.degraded, List.head?_append, List.head?_singleton]

theorem applyRuntimeCapabilities_spec (domain : TruthCoverageDomain)
    (capabilities : List RuntimeCapability) :
    ∃ accumulator reasons,
      capabilities.foldlM applyRuntimeCapability ({ domain := domain }, []) =
        .ok (accumulator, reasons) ∧
      Applied domain capabilities accumulator reasons := by
  induction capabilities using List.reverseRecOn with
  | nil =>
      exact ⟨_, _, rfl, ⟨rfl, by simp⟩, ⟨rfl, rfl, rfl⟩, rfl, rfl, rfl, by simp, rfl⟩
  | append_singleton capabilities capability ih =>
      obtain ⟨accumulator, reasons, hrun, happlied⟩ := ih
      obtain ⟨next, reasons', hstep, happlied'⟩ :=
        applyRuntimeCapability_spec happlied capability
      exact ⟨next, reasons', foldlM_snoc_eq_ok.mpr ⟨_, hrun, hstep⟩, happlied'⟩

/-! ## Accepted domains -/

/-- The reason of an availability: one is given when something is missing. -/
inductive ReasonFor : TruthAvailability → Option String → Prop where
  | given {availability : TruthAvailability} {text : String}
      (hmissing : availability ≠ .available) (hnonblank : isBlank text = false) :
      ReasonFor availability (some text)
  | unneeded {availability : TruthAvailability} (hwhole : availability ≠ .degraded) :
      ReasonFor availability none

theorem ReasonFor.checks {availability : TruthAvailability} {reason : Option String}
    (hfor : ReasonFor availability reason) :
    reason.any isBlank = false ∧ (decide (availability = .degraded) && reason.isNone) = false ∧
      (decide (availability = .available) && reason.isSome) = false := by
  cases hfor with
  | given hmissing hnonblank => simp [hmissing, hnonblank]
  | unneeded hwhole => simp [hwhole]

structure Publishable (accumulator : DomainAccumulator) : Prop where
  balanced : accumulator.Balanced
  reason : ReasonFor accumulator.availability accumulator.degradedReason
  actions : accumulator.domain ≠ .actions → accumulator.actionCapabilities = []
  execution : accumulator.domain ∉ [TruthCoverageDomain.quality, .actions] →
    accumulator.executionAvailable = none

theorem Applied.publishable {accumulator : DomainAccumulator}
    (happlied : Applied domain capabilities accumulator reasons) {availability : TruthAvailability}
    {reason : Option String} (hfor : ReasonFor availability reason) :
    Publishable
      { accumulator with availability := availability, degradedReason := reason } := by
  constructor
  case balanced => exact ⟨happlied.balanced.counts, happlied.balanced.tools⟩
  case reason => exact hfor
  case actions =>
    intro _
    exact happlied.same.actionCapabilities
  case execution =>
    intro _
    exact happlied.same.executionAvailable

theorem Applied.counted {accumulator : DomainAccumulator}
    (happlied : Applied domain capabilities accumulator reasons) {capability : RuntimeCapability}
    (hmem : capability ∈ capabilities) (hready : capability.availability = .available) :
    accumulator.unavailableCount < accumulator.totalEntities := by
  rw [happlied.unavailable, happlied.total]
  apply lt_of_le_of_ne List.countP_le_length
  intro hall
  have hmissing := List.countP_eq_length.mp hall capability hmem
  exact of_decide_eq_true hmissing hready

theorem Publishable.withExecution {accumulator : DomainAccumulator}
    (hready : accumulator.Publishable) (executionAvailable : Option Bool)
    (hdomain : accumulator.domain ∈ [TruthCoverageDomain.quality, .actions]) :
    Publishable { accumulator with executionAvailable := executionAvailable } := by
  constructor
  case balanced => exact ⟨hready.balanced.counts, hready.balanced.tools⟩
  case reason => exact hready.reason
  case actions => exact hready.actions
  case execution =>
    intro hother
    exact absurd hdomain hother

theorem Publishable.withActions {accumulator : DomainAccumulator}
    (hready : accumulator.Publishable)
    (actionCapabilities : List (TruthActionCapability × Bool))
    (hdomain : accumulator.domain = .actions) :
    Publishable { accumulator with actionCapabilities := actionCapabilities } := by
  constructor
  case balanced => exact ⟨hready.balanced.counts, hready.balanced.tools⟩
  case reason => exact hready.reason
  case actions =>
    intro hother
    exact absurd hdomain hother
  case execution => exact hready.execution

theorem finalize_eq_ok {accumulator : DomainAccumulator} (hready : accumulator.Publishable) :
    accumulator.finalize = .ok accumulator.toDomain := by
  have hcounts := hready.balanced.counts
  have hreason := hready.reason.checks
  have htools : ((counter accumulator.sourceTools).any fun entry => isBlank entry.1) =
      false := by
    rw [List.any_eq_false]
    intro entry hentry
    rw [hready.balanced.tools entry.1 (mem_of_mem_itemCounter hentry)]
    exact Bool.false_ne_true
  have hactions : (decide (accumulator.domain ≠ .actions) &&
      !accumulator.actionCapabilities.isEmpty) = false := by
    by_cases hdomain : accumulator.domain = .actions
    · simp [hdomain]
    · simp [hready.actions hdomain]
  have hexecution : (decide (accumulator.domain ≠ .quality) &&
      decide (accumulator.domain ≠ .actions) &&
      accumulator.executionAvailable.isSome) = false := by
    by_cases hdomain : accumulator.domain ∈ [TruthCoverageDomain.quality, .actions]
    · cases List.mem_cons.mp hdomain with
      | inl hquality => simp [hquality]
      | inr hrest => simp [List.mem_singleton.mp hrest]
    · simp [hready.execution hdomain]
  apply validated_eq_ok.mpr
  constructor
  · rfl
  · intro check hcheck
    simp only [domainChecks, toDomain, List.mem_cons, List.not_mem_nil,
      or_false] at hcheck
    rcases hcheck with rfl | rfl | rfl | rfl | rfl | rfl | rfl
    · exact hreason.1
    · exact htools
    · simp [hcounts]
    · exact hreason.2.1
    · exact hreason.2.2
    · exact hactions
    · exact hexecution

end DomainAccumulator

/-! ## Honest domains -/

namespace TruthCoverageByDomain

def Named (domain : TruthCoverageByDomain) : Prop :=
  ∀ entry ∈ domain.sourceToolMix, isBlank entry.1 = false

/-- What the availability of a domain promises. -/
structure Honest (domain : TruthCoverageByDomain) : Prop where
  counted : domain.availability = .available → domain.unavailableCount < domain.totalEntities
  executed : domain.executionAvailable = some false → domain.availability ≠ .available
  observed : domain.unavailableCount = domain.totalEntities → domain.availability ≠ .available

theorem honest_of_not_available {domain : TruthCoverageByDomain}
    (havailability : domain.availability ≠ .available) : domain.Honest := by
  constructor
  case counted =>
    intro havailable
    exact absurd havailable havailability
  case executed =>
    intro _
    exact havailability
  case observed =>
    intro _
    exact havailability

theorem honest_of_counted {domain : TruthCoverageByDomain}
    (hcounted : domain.unavailableCount < domain.totalEntities)
    (hexecuted : domain.executionAvailable ≠ some false) : domain.Honest := by
  constructor
  case counted =>
    intro _
    exact hcounted
  case executed =>
    intro hfalse
    exact absurd hfalse hexecuted
  case observed =>
    intro hequal
    omega

end TruthCoverageByDomain

theorem DomainAccumulator.toDomain_named {accumulator : DomainAccumulator}
    (hbalanced : accumulator.Balanced) : accumulator.toDomain.Named := by
  intro entry hentry
  exact hbalanced.tools entry.1 (mem_of_mem_itemCounter hentry)

def Reports (result : PyResult TruthCoverageByDomain) (kind : TruthCoverageDomain)
    (property : TruthCoverageByDomain → Prop) : Prop :=
  ∃ domain, result = .ok domain ∧ domain.domain = kind ∧ domain.Named ∧ property domain

theorem DomainAccumulator.reports_finalize {accumulator : DomainAccumulator}
    {kind : TruthCoverageDomain} {property : TruthCoverageByDomain → Prop}
    (hready : accumulator.Publishable) (hkind : accumulator.domain = kind)
    (hproperty : property accumulator.toDomain) :
    Reports accumulator.finalize kind property :=
  ⟨accumulator.toDomain, finalize_eq_ok hready, hkind, toDomain_named hready.balanced, hproperty⟩

theorem DomainAccumulator.reports_missing {accumulator : DomainAccumulator}
    {kind : TruthCoverageDomain} (hready : accumulator.Publishable)
    (hkind : accumulator.domain = kind) (hmissing : accumulator.availability ≠ .available) :
    Reports accumulator.finalize kind TruthCoverageByDomain.Honest :=
  reports_finalize hready hkind (TruthCoverageByDomain.honest_of_not_available hmissing)

theorem isBlank_join_cons {separator part : String} {parts : List String}
    (hpart : isBlank part = false) : isBlank (join separator (part :: parts)) = false := by
  cases parts with
  | nil => exact hpart
  | cons next rest => rw [join, isBlank_append, isBlank_append, hpart, Bool.false_and,
      Bool.false_and]

theorem isBlank_joinedReasons (hne : reasons ≠ [])
    (hnonblank : ∀ reason ∈ reasons, isBlank reason = false) :
    isBlank (joinedReasons reasons) = false := by
  unfold joinedReasons
  cases hsorted : sortedBy id (dedupeBy id reasons) with
  | nil =>
      obtain ⟨reason, hreason⟩ := List.exists_mem_of_ne_nil reasons hne
      have hmem : reason ∈ sortedBy id (dedupeBy id reasons) :=
        mem_sortedBy.mpr (mem_dedupeBy_id.mpr hreason)
      rw [hsorted] at hmem
      exact absurd hmem List.not_mem_nil
  | cons reason rest =>
      have hmem : reason ∈ sortedBy id (dedupeBy id reasons) := by
        rw [hsorted]
        exact List.mem_cons_self
      apply isBlank_join_cons
      exact hnonblank reason (mem_dedupeBy_id.mp (mem_sortedBy.mp hmem))

namespace CoverageRepository

open DomainAccumulator

variable (repository : CoverageRepository)

theorem architectureDomain_spec :
    Reports repository.architectureDomain .architecture TruthCoverageByDomain.Honest := by
  obtain ⟨accumulator, hrun, hbalanced, hsame, hreason, htotal, hunavailable⟩ :=
    addProvenanceItems_spec .architecture repository.provenance_given repository.tools_nonblank
  have hpublishable : ∀ availability reason, ReasonFor availability reason → Publishable
      { accumulator with availability := availability, degradedReason := reason } := by
    intro availability reason hfor
    constructor
    case balanced => exact ⟨hbalanced.counts, hbalanced.tools⟩
    case reason => exact hfor
    case actions =>
      intro _
      exact hsame.actionCapabilities
    case execution =>
      intro _
      exact hsame.executionAvailable
  unfold architectureDomain
  rw [hrun, ok_bind]
  split_ifs with hrole hempty
  · exact reports_missing
      (hpublishable .unavailable _ (.given (by decide) (by decide))) hsame.domain nofun
  · exact reports_missing
      (hpublishable .degraded _ (.given (by decide) (by decide))) hsame.domain nofun
  · have hready := hpublishable .available none (.unneeded (by decide))
    rw [← hreason] at hready
    apply reports_finalize hready hsame.domain
    apply TruthCoverageByDomain.honest_of_counted
    · simp only [toDomain]
      omega
    · simp only [toDomain]
      rw [hsame.executionAvailable]
      simp

theorem reasons_eq_nil_iff {domain : TruthCoverageDomain} {accumulator : DomainAccumulator}
    (happlied : Applied domain capabilities accumulator reasons) :
    reasons = [] ↔ accumulator.unavailableCount = 0 := by
  rw [← List.length_eq_zero_iff, happlied.reasons_length]

theorem codeDomain_spec :
    Reports repository.codeDomain .code TruthCoverageByDomain.Honest := by
  unfold codeDomain
  by_cases hrole : repository.supportsRole .code = true
  · rw [if_neg (by simp [hrole])]
    obtain ⟨accumulator, reasons, hrun, happlied⟩ := applyRuntimeCapabilities_spec .code
      (repository.codeCapabilities.flatMap fun capabilities =>
        [capabilities.symbolSearch, capabilities.symbolsInFile, capabilities.definitions,
          capabilities.references, capabilities.implementations])
    have hprovider : repository.codeCapabilities ≠ [] := by
      obtain ⟨provider, hprovider, hcode⟩ := List.any_eq_true.mp hrole
      intro hnone
      have hmem : provider ∈ repository.providersForRole .code :=
        List.mem_filter.mpr ⟨hprovider, hcode⟩
      rw [List.map_eq_nil_iff.mp hnone] at hmem
      exact absurd hmem List.not_mem_nil
    have hpositive : 0 < accumulator.totalEntities := by
      rw [happlied.total]
      cases hcapabilities : repository.codeCapabilities with
      | nil => exact absurd hcapabilities hprovider
      | cons first rest => simp
    dsimp only
    rw [hrun, ok_bind]
    dsimp only
    by_cases hnone : accumulator.unavailableCount = 0
    · have hreasons := (reasons_eq_nil_iff happlied).mpr hnone
      have hreason : accumulator.degradedReason = none := by
        rw [happlied.degraded, hreasons, List.head?_nil]
      rw [if_neg (by omega), if_neg (by omega), if_neg (by simp [hreasons]), hreason]
      apply reports_finalize (happlied.publishable (.unneeded (by decide))) happlied.same.domain
      apply TruthCoverageByDomain.honest_of_counted
      · simp only [toDomain]
        omega
      · simp only [toDomain]
        rw [happlied.same.executionAvailable]
        simp
    · have hreasons : reasons ≠ [] := fun hnil => hnone ((reasons_eq_nil_iff happlied).mp hnil)
      have havailability : (if accumulator.unavailableCount = accumulator.totalEntities
          then TruthAvailability.degraded
          else if accumulator.unavailableCount > 0 then .degraded else .available) =
          .degraded := by
        split_ifs with hall hsome
        · rfl
        · rfl
        · omega
      rw [havailability, if_pos hreasons]
      exact reports_missing
        (happlied.publishable
          (.given (by decide) (isBlank_joinedReasons hreasons happlied.reasons_nonblank)))
        happlied.same.domain nofun
  · rw [if_pos (by simp [hrole])]
    have hready : Publishable
        { (DomainAccumulator.addUnavailable { domain := .code } codeOperationCount
          (some "repository has no code intelligence provider")) with
          availability := .unavailable } := by
      constructor
      case balanced => exact ⟨rfl, by simp [addUnavailable]⟩
      case reason => exact .given (by decide) (by decide)
      case actions =>
        intro _
        rfl
      case execution =>
        intro _
        rfl
    exact reports_missing hready rfl nofun

theorem testsDomain_spec :
    Reports repository.testsDomain .tests TruthCoverageByDomain.Honest := by
  unfold testsDomain
  by_cases hrole : repository.supportsRole .test = true
  · rw [if_neg (by simp [hrole])]
    obtain ⟨accumulator, reasons, hrun, happlied⟩ := applyRuntimeCapabilities_spec .tests
      (repository.testCapabilities.flatMap fun capabilities =>
        [capabilities.discovery, capabilities.execution])
    dsimp only
    rw [hrun, ok_bind]
    dsimp only
    split_ifs with hempty hsome hreasons hheuristic
    · exact reports_missing (happlied.publishable (.given (by decide) (by decide)))
        happlied.same.domain nofun
    · exact reports_missing
        (happlied.publishable
          (.given (by decide) (isBlank_joinedReasons hreasons happlied.reasons_nonblank)))
        happlied.same.domain nofun
    · exact reports_missing (happlied.publishable (.given (by decide) (by decide)))
        happlied.same.domain nofun
    · exact reports_missing (happlied.publishable (.given (by decide) (by decide)))
        happlied.same.domain nofun
    · have hreason : accumulator.degradedReason = none := by
        rw [happlied.degraded, (reasons_eq_nil_iff happlied).mpr (by omega), List.head?_nil]
      have hfor : ReasonFor .available none := .unneeded (by decide)
      have hready := happlied.publishable hfor
      rw [← hreason] at hready
      apply reports_finalize hready happlied.same.domain
      apply TruthCoverageByDomain.honest_of_counted
      · simp only [toDomain]
        omega
      · simp only [toDomain]
        rw [happlied.same.executionAvailable]
        simp
  · rw [if_pos (by simp [hrole])]
    have hready : Publishable
        { domain := .tests
          availability := .unavailable
          degradedReason := some "repository has no test provider" } := by
      constructor
      case balanced => exact ⟨rfl, by simp⟩
      case reason => exact .given (by decide) (by decide)
      case actions =>
        intro _
        rfl
      case execution =>
        intro _
        rfl
    exact reports_missing hready rfl nofun

def QualityObserved : Prop :=
  repository.providersForRole .quality ≠ [] →
    repository.qualityProvidersForFiles repository.relevantRepositoryRelPaths ≠ []

theorem qualityDomain_spec :
    Reports repository.qualityDomain .quality fun domain =>
      domain.Honest ↔ repository.QualityObserved := by
  unfold qualityDomain
  by_cases hrole : repository.providersForRole .quality = []
  · have hobserved : repository.QualityObserved := by
      intro hsome
      exact absurd hrole hsome
    have hready : Publishable
        { domain := .quality
          availability := .unavailable
          executionAvailable := some false
          degradedReason := some "repository has no quality provider" } := by
      constructor
      case balanced => exact ⟨rfl, by simp⟩
      case reason => exact .given (by decide) (by decide)
      case actions =>
        intro _
        rfl
      case execution =>
        intro hother
        exact absurd (by decide) hother
    rw [if_pos (by simp [hrole])]
    apply reports_finalize hready rfl
    constructor
    · intro _
      exact hobserved
    · intro _
      exact TruthCoverageByDomain.honest_of_not_available nofun
  · rw [if_neg (by simp [hrole])]
    obtain ⟨accumulator, reasons, hrun, happlied⟩ := applyRuntimeCapabilities_spec .quality
      ((repository.qualityCapabilities repository.relevantRepositoryRelPaths).flatMap
        fun capabilities => [capabilities.lint, capabilities.format])
    have hdomain : accumulator.domain ∈ [TruthCoverageDomain.quality, .actions] := by
      rw [happlied.same.domain]
      decide
    have htotal : accumulator.totalEntities = 0 ↔
        repository.qualityProvidersForFiles repository.relevantRepositoryRelPaths = [] := by
      rw [happlied.total, qualityCapabilities]
      cases repository.qualityProvidersForFiles repository.relevantRepositoryRelPaths with
      | nil => simp
      | cons provider rest => simp
    dsimp only
    rw [hrun, ok_bind]
    dsimp only
    by_cases hnone : accumulator.unavailableCount = 0
    · have hreason : accumulator.degradedReason = none := by
        rw [happlied.degraded, (reasons_eq_nil_iff happlied).mpr hnone, List.head?_nil]
      have hfor : ReasonFor .available none := .unneeded (by decide)
      have hready := (happlied.publishable hfor).withExecution
        (some (decide (accumulator.unavailableCount = 0) &&
          decide (accumulator.totalEntities > 0))) hdomain
      dsimp only at hready
      rw [← hreason] at hready
      rw [if_pos hnone]
      apply reports_finalize hready happlied.same.domain
      constructor
      · intro hhonest _ hunseen
        have hcounted : accumulator.unavailableCount < accumulator.totalEntities :=
          hhonest.counted rfl
        have hzero := htotal.mpr hunseen
        omega
      · intro hobserved
        have hpositive : 0 < accumulator.totalEntities :=
          Nat.pos_of_ne_zero fun hzero => hobserved hrole (htotal.mp hzero)
        apply TruthCoverageByDomain.honest_of_counted
        · simp only [toDomain]
          omega
        · simp [toDomain, hnone, hpositive]
    · have hreasons : reasons ≠ [] := fun hnil => hnone ((reasons_eq_nil_iff happlied).mp hnil)
      have hobserved : repository.QualityObserved := by
        intro _ hunseen
        have hle := happlied.balanced.counts
        have hzero := htotal.mpr hunseen
        omega
      have hfor : ReasonFor .degraded (some (joinedReasons reasons)) :=
        .given (by decide) (isBlank_joinedReasons hreasons happlied.reasons_nonblank)
      have hready := (happlied.publishable hfor).withExecution
        (some (decide (accumulator.unavailableCount = 0) &&
          decide (accumulator.totalEntities > 0))) hdomain
      rw [if_neg hnone, if_pos hreasons]
      apply reports_finalize hready happlied.same.domain
      constructor
      · intro _
        exact hobserved
      · intro _
        exact TruthCoverageByDomain.honest_of_not_available nofun

theorem actionsDomain_spec :
    Reports repository.actionsDomain .actions TruthCoverageByDomain.Honest := by
  unfold actionsDomain
  obtain ⟨accumulator, reasons, hrun, happlied⟩ := applyRuntimeCapabilities_spec .actions
    (repository.actionCapabilities.flatMap fun snapshot =>
      [snapshot.tests, snapshot.builds, snapshot.runners])
  have hdomain : accumulator.domain ∈ [TruthCoverageDomain.quality, .actions] := by
    rw [happlied.same.domain]
    decide
  have hready : ∀ availability reason execution flags, ReasonFor availability reason →
      Publishable
        { accumulator with
          availability := availability
          degradedReason := reason
          executionAvailable := execution
          actionCapabilities := flags } := by
    intro availability reason execution flags hfor
    exact ((happlied.publishable hfor).withExecution execution hdomain).withActions flags
      happlied.same.domain
  dsimp only
  rw [hrun, ok_bind]
  dsimp only
  split_ifs with hempty hmissing hreasons
  · exact reports_missing (hready .unavailable _ _ _ (.given (by decide) (by decide)))
      happlied.same.domain nofun
  · exact reports_missing
      (hready .degraded _ _ _
        (.given (by decide) (isBlank_joinedReasons hreasons happlied.reasons_nonblank)))
      happlied.same.domain nofun
  · have hblank : ∀ names, isBlank ("deterministic actions are missing for: " ++ names) =
        false := by
      intro names
      rw [isBlank_append]
      rfl
    exact reports_missing (hready .degraded _ _ _ (.given (by decide) (hblank _)))
      happlied.same.domain nofun
  · -- nothing is missing, so that a snapshot has tests which can be run
    apply reports_finalize (hready .available none _ _ (.unneeded (by decide)))
      happlied.same.domain
    have htests : (repository.actionCapabilities.any fun snapshot =>
        snapshot.tests.availability = .available) = true := by
      by_contra hnot
      apply hmissing
      simp [hnot]
    obtain ⟨snapshot, hsnapshot, havailable⟩ := List.any_eq_true.mp htests
    apply TruthCoverageByDomain.honest_of_counted
    · have hmem : snapshot.tests ∈ repository.actionCapabilities.flatMap fun snapshot =>
          [snapshot.tests, snapshot.builds, snapshot.runners] :=
        List.mem_flatMap.mpr ⟨snapshot, hsnapshot, List.mem_cons_self⟩
      exact happlied.counted hmem (of_decide_eq_true havailable)
    · simp [toDomain, htests]

end CoverageRepository

/-! ## The honest summary -/

namespace TruthCoverageSummary

/-- Every domain is honest, and all of them are available where the summary is. -/
structure Honest (summary : TruthCoverageSummary) : Prop where
  domains : ∀ domain ∈ summary.domains, domain.Honest
  overall : summary.overallAvailability = .available →
    ∀ domain ∈ summary.domains, domain.availability = .available

section Frequencies

variable {α : Type} {text : α → String} {mix : List (α × ℕ)}

theorem mem_of_mostFrequent {key : α} (hkey : mostFrequent? text mix = some key) :
    ∃ entry ∈ mix, entry.1 = key := by
  have hleader : ∀ (step : Option (α × ℕ) → α × ℕ → Option (α × ℕ)),
      (∀ best entry, step best entry = some entry ∨ step best entry = best) →
      ∀ (entries : List (α × ℕ)) (best : Option (α × ℕ)) (entry : α × ℕ),
        entries.foldl step best = some entry → best = some entry ∨ entry ∈ entries := by
    intro step hstep entries
    induction entries with
    | nil =>
        intro best entry hfold
        exact Or.inl hfold
    | cons head entries ih =>
        intro best entry hfold
        cases ih _ entry hfold with
        | inr htail => exact Or.inr (List.mem_cons_of_mem _ htail)
        | inl hbest =>
            cases hstep best head with
            | inl hhead =>
                rw [hhead] at hbest
                cases hbest
                exact Or.inr List.mem_cons_self
            | inr hkept => exact Or.inl (hkept.symm.trans hbest)
  obtain ⟨entry, hfold, heq⟩ := Option.map_eq_some_iff.mp hkey
  have hmem : none = some entry ∨ entry ∈ sortedBy (fun entry => text entry.1) mix := by
    refine hleader _ ?_ _ none entry hfold
    intro best entry
    cases best with
    | none => exact Or.inl rfl
    | some leader =>
        dsimp only
        split
        · exact Or.inl rfl
        · exact Or.inr rfl
  cases hmem with
  | inl hnone => cases hnone
  | inr hmem => exact ⟨entry, mem_sortedBy.mp hmem, heq⟩

end Frequencies

theorem exists_domainSummaryProvenance {domain : TruthCoverageByDomain} (hnamed : domain.Named) :
    ∃ entry, domainSummaryProvenance domain = .ok entry := by
  have htext : ∀ middle : String, isBlank middle = false →
      isBlank (domain.domain.value ++ middle ++ domain.availability.value) = false := by
    intro middle hmiddle
    rw [isBlank_append, isBlank_append, hmiddle, Bool.and_false, Bool.false_and]
  have htool : (mostFrequent? id domain.sourceToolMix).any isBlank = false := by
    cases hleader : mostFrequent? id domain.sourceToolMix with
    | none => rfl
    | some tool =>
        obtain ⟨entry, hentry, heq⟩ := mem_of_mostFrequent hleader
        rw [← heq]
        exact hnamed entry hentry
  unfold domainSummaryProvenance
  split_ifs with hempty
  · exact ⟨_, ProvenanceEntry.create_eq_ok.mpr ⟨rfl, htext _ (by decide), [], rfl, rfl⟩⟩
  · exact ⟨_, ProvenanceEntry.create_eq_ok.mpr ⟨htool, htext _ (by decide), [], rfl, rfl⟩⟩

theorem summaryOf_spec {scopeId : String} {domains : List TruthCoverageByDomain}
    (hscope : isBlank scopeId = false) (hnamed : ∀ domain ∈ domains, domain.Named)
    (hall : domains.map TruthCoverageByDomain.domain =
      [.architecture, .code, .tests, .quality, .actions]) :
    ∃ summary, summaryOf "repository" scopeId domains = .ok summary ∧
      summary.domains = domains ∧
      (summary.overallAvailability = .available →
        ∀ domain ∈ domains, domain.availability = .available) := by
  obtain ⟨entries, hentries⟩ := exists_mapM_iff.mpr fun domain hdomain =>
    exists_domainSummaryProvenance (hnamed domain hdomain)
  have hsome : (dedupeBy id entries).isEmpty = false := by
    rw [List.isEmpty_eq_false_iff]
    intro hnone
    have hentries' : entries = [] := by
      apply List.eq_nil_iff_forall_not_mem.mpr
      intro entry hentry
      rw [← mem_dedupeBy_id, hnone] at hentry
      exact absurd hentry List.not_mem_nil
    rw [(outputs_eq_nil_iff hentries).mp hentries'] at hall
    exact absurd hall (by decide)
  unfold summaryOf
  rw [hentries, ok_bind]
  refine ⟨_, validated_eq_ok.mpr ⟨rfl, ?_⟩, rfl, ?_⟩
  · intro check hcheck
    simp only [TruthCoverageService.summaryChecks, List.mem_cons, List.not_mem_nil, or_false] at hcheck
    rcases hcheck with rfl | rfl | rfl | rfl | rfl
    · decide
    · exact hscope
    · rfl
    · simp [hall]
    · exact hsome
  · intro hoverall
    dsimp only at hoverall
    split_ifs at hoverall with hmissing hany
    intro domain hdomain
    by_contra hunavailable
    apply hany
    rw [List.any_eq_true]
    exact ⟨domain, hdomain, decide_eq_true hunavailable⟩

end TruthCoverageSummary

namespace CoverageRepository

theorem truthCoverage_spec (repository : CoverageRepository) :
    ∃ summary, repository.truthCoverage = .ok summary ∧
      (summary.Honest ↔ repository.QualityObserved) := by
  obtain ⟨architecture, harchitecture, hkind, hnamed, hhonest⟩ :=
    repository.architectureDomain_spec
  obtain ⟨code, hcode, hkind', hnamed', hhonest'⟩ := repository.codeDomain_spec
  obtain ⟨tests, htests, hkind'', hnamed'', hhonest''⟩ := repository.testsDomain_spec
  obtain ⟨quality, hquality, hqualityKind, hqualityNamed, hqualityHonest⟩ :=
    repository.qualityDomain_spec
  obtain ⟨actions, hactions, hactionsKind, hactionsNamed, hactionsHonest⟩ :=
    repository.actionsDomain_spec
  have hall : [architecture, code, tests, quality, actions].map
      TruthCoverageByDomain.domain = [.architecture, .code, .tests, .quality, .actions] := by
    simp [hkind, hkind', hkind'', hqualityKind, hactionsKind]
  have hnames : ∀ domain ∈ [architecture, code, tests, quality, actions], domain.Named := by
    intro domain hdomain
    simp only [List.mem_cons, List.not_mem_nil, or_false] at hdomain
    rcases hdomain with rfl | rfl | rfl | rfl | rfl
    · exact hnamed
    · exact hnamed'
    · exact hnamed''
    · exact hqualityNamed
    · exact hactionsNamed
  obtain ⟨summary, hsummary, hdomains, hoverall⟩ :=
    TruthCoverageSummary.summaryOf_spec repository.id_nonblank hnames hall
  use summary
  constructor
  · unfold truthCoverage
    rw [harchitecture, ok_bind, hcode, ok_bind, htests, ok_bind, hquality, ok_bind, hactions,
      ok_bind, hsummary]
  · constructor
    · intro hsound
      apply hqualityHonest.mp
      apply hsound.domains
      rw [hdomains]
      simp
    · intro hobserved
      constructor
      case domains =>
        intro domain hdomain
        rw [hdomains] at hdomain
        simp only [List.mem_cons, List.not_mem_nil, or_false] at hdomain
        rcases hdomain with rfl | rfl | rfl | rfl | rfl
        · exact hhonest
        · exact hhonest'
        · exact hhonest''
        · exact hqualityHonest.mpr hobserved
        · exact hactionsHonest
      case overall =>
        intro havailable
        rw [hdomains]
        exact hoverall havailable

/-- The coverage of a repository is reported, and honest, exactly when its quality providers, if
there are any, report on some relevant file. -/
theorem truthCoverage_honest_iff (repository : CoverageRepository) :
    (∃ summary, repository.truthCoverage = .ok summary ∧ summary.Honest) ↔
      (repository.providersForRole .quality ≠ [] →
        repository.qualityProvidersForFiles repository.relevantRepositoryRelPaths ≠ []) := by
  obtain ⟨summary, hsummary, hhonest⟩ := repository.truthCoverage_spec
  constructor
  · intro hsound
    obtain ⟨other, hother, hsound⟩ := hsound
    rw [hsummary] at hother
    cases hother
    exact hhonest.mp hsound
  · intro hobserved
    exact ⟨summary, hsummary, hhonest.mpr hobserved⟩

def readyCapability : RuntimeCapability where
  capabilityId := "npm:quality"
  availability := .available
  sourceKind := .qualityTool
  sourceTool := some "eslint"
  reason := none
  provenance :=
    [{ confidenceMode := .authoritative
       sourceKind := .qualityTool
       sourceTool := some "eslint"
       evidenceSummary := "configured in package.json"
       evidencePaths := ["package.json"] }]
  reason_given := by decide
  reason_nonblank := rfl
  provenance_given := by decide
  tools_nonblank := by decide

/-- An npm package with `package.json` and `lib/index.js`: its directory `lib` is a source
root and holds artifacts at once, so that none of its files is relevant to quality. -/
def libPackage : CoverageRepository where
  id := "repo:lib"
  providers :=
    [{ key := ("npm", "")
       roles := [.architecture, .code, .test, .quality]
       code := ⟨readyCapability, readyCapability, readyCapability, readyCapability,
         readyCapability⟩
       tests := ⟨readyCapability, readyCapability⟩
       quality := fun _ => ⟨readyCapability, readyCapability⟩
       actions := none }]
  architectureProvenance :=
    [[⟨.derived, .manifest, none, "derived from npm workspace package metadata",
      ["package.json"]⟩]]
  relevantRepositoryRelPaths := []
  qualityProvidersForFile := fun _ => []
  id_nonblank := by decide
  provenance_given := by simp
  tools_nonblank := by simp

/-- A quality provider without a relevant file is reported as available. -/
theorem truthCoverage_not_always_honest :
    ¬ ∀ repository : CoverageRepository,
      ∃ summary, repository.truthCoverage = .ok summary ∧ summary.Honest := by
  intro hall
  obtain ⟨summary, hsummary, hhonest⟩ := hall libPackage
  obtain ⟨other, hother, hiff⟩ := libPackage.truthCoverage_spec
  rw [hsummary] at hother
  cases hother
  have hobserved : libPackage.QualityObserved := hiff.mp hhonest
  exact hobserved (by simp [providersForRole, libPackage]) rfl

end CoverageRepository

end SuitCode
