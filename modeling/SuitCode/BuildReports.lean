import SuitCode.ProjectBuilds

/-!
# What a project build reports

A build is reported if no target is refused and the summary of the results is accepted: two
targets which pass may not share a target id.
-/

namespace SuitCode

open ExceptList IsoTimestamps KeyedList KeyedTable PosixText StoppingRuns

/-- A build of all targets of a repository, in the worlds which the builds find. -/
structure ProjectBuild where
  service : BuildService
  targets : List BuildTargetDescription
  worlds : String → ActionWorld
  timeoutSeconds : ℤ
  logs : RunLogs
  listed : service.repository.listBuildTargets = .ok targets
  hasTarget : targets ≠ []
  invocations : ∀ target ∈ targets, target.invocation.argv.any isBlank = false
  timeout : validateTimeoutSeconds timeoutSeconds = .ok ()

namespace ProjectBuild

variable (build : ProjectBuild)

def call (target : BuildTargetDescription) : RunCall :=
  ⟨build.worlds target.actionId, target.request build.timeoutSeconds⟩

def logPath (target : BuildTargetDescription) : String :=
  runLogPath "builds" (build.worlds target.actionId).now target.actionId

def passes (target : BuildTargetDescription) : Bool :=
  match build.service.actions.execute (build.call target).world (build.call target).request with
  | .ok (_, execution) => resolveStatus execution.exitCode execution.timedOut = .passed
  | .error _ => false

def results : PyResult (List BuildExecutionResult) :=
  (runUntilError
    (fun target => build.service.buildTarget (build.worlds target.actionId) build.timeoutSeconds
      target.actionId) build.logs build.targets).1

def outcome : PyResult BuildProjectResult :=
  (build.service.buildProject build.worlds build.timeoutSeconds build.logs).1

/-- The summary counts each target once: by its target id if its action passed, and by its
result otherwise. -/
structure Accounted (result : BuildProjectResult) (results : List BuildExecutionResult) :
    Prop where
  actions : results.map BuildExecutionResult.actionId =
    build.targets.map BuildTargetDescription.actionId
  targets : results.map BuildExecutionResult.targetId =
    build.targets.map BuildTargetDescription.targetId
  total : result.total = build.targets.length
  succeeded : result.succeededTargetIds = BuildService.succeededTargetIds results
  once : result.succeededTargetIds.Nodup
  failed : result.failedResults = BuildService.failedResults results

/-- The build returns a summary in which each target is accounted for. -/
def Kept : Prop :=
  ∃ result results, build.outcome = .ok result ∧ build.results = .ok results ∧
    build.Accounted result results

/-- No target is refused, and what is reported of them is accepted. -/
structure Reportable : Prop where
  ids : ∀ target ∈ build.targets, strip target.actionId = target.actionId
  executes : ∀ target ∈ build.targets, build.service.actions.Writes (build.call target)
  directories : ∀ target ∈ build.targets, target.invocation.cwd.any isBlank = false
  apart : ((build.targets.filter build.passes).map BuildTargetDescription.targetId).Nodup
  evidence : ∃ provenance, (build.targets.mapM fun target => do
      let entry ← target.resultEntry (build.logPath target)
      pure (target.provenance ++ [entry])) = .ok provenance ∧
    ∃ entry, BuildService.summaryEntry provenance.flatten = .ok entry

end ProjectBuild

/-! ## Targets of the repository -/

namespace Repository

theorem exists_action_of_indexed {seen : List String} {actions : List RepositoryAction}
    {targets : List BuildTargetDescription} (hok : indexBuildTargets seen actions = .ok targets)
    {target : BuildTargetDescription} (hmem : target ∈ targets) :
    ∃ action, toBuildTarget action = .ok target := by
  induction actions generalizing seen targets with
  | nil =>
      rw [indexBuildTargets, Except.ok.injEq] at hok
      rw [← hok] at hmem
      cases hmem
  | cons action actions ih =>
      rw [indexBuildTargets] at hok
      by_cases hseen : action.id ∈ seen
      · rw [if_pos hseen] at hok
        exact absurd hok raiseValueError_ne_ok
      · rw [if_neg hseen] at hok
        simp only [bind_eq_ok, pure_eq_ok] at hok
        obtain ⟨first, hfirst, rest, hrest, rfl⟩ := hok
        cases List.mem_cons.mp hmem with
        | inl heq => exact ⟨action, heq ▸ hfirst⟩
        | inr htail => exact ih hrest htail

theorem checked_of_listed {repository : Repository} {targets : List BuildTargetDescription}
    (hlisted : repository.listBuildTargets = .ok targets) {target : BuildTargetDescription}
    (hmem : target ∈ targets) :
    isBlank target.actionId = false ∧ isBlank target.targetId = false := by
  simp only [listBuildTargets, bind_eq_ok, pure_eq_ok] at hlisted
  obtain ⟨actions, -, indexed, hindexed, rfl⟩ := hlisted
  obtain ⟨action, haction⟩ := exists_action_of_indexed hindexed (mem_sortedBy.mp hmem)
  unfold toBuildTarget at haction
  split at haction
  · exact absurd haction raiseValueError_ne_ok
  · obtain ⟨rfl, hchecks⟩ := validated_eq_ok.mp haction
    simp only [buildTargetChecks, List.forall_mem_cons] at hchecks
    exact ⟨hchecks.1, hchecks.2.2.2.1⟩

end Repository

/-! ## The result of one build -/

theorem toBuildStatus_eq_passed {status : ActionExecutionStatus} :
    toBuildStatus status = .passed ↔ status = .passed := by
  cases status <;> simp [toBuildStatus]

theorem toBuildStatus_eq_timeout {status : ActionExecutionStatus} :
    toBuildStatus status = .timeout ↔ status = .timeout := by
  cases status <;> simp [toBuildStatus]

section

variable {service : ActionExecutionService} {target : BuildTargetDescription} {call : RunCall}
  {execution : ActionExecutionResult} {result : BuildExecutionResult}

theorem exists_toBuildResult {timeoutSeconds : ℤ} {world : ActionWorld}
    (htarget : isBlank target.targetId = false)
    (hran : service.outcomeOf ⟨world, target.request timeoutSeconds⟩ = .ok execution)
    {entry : ProvenanceEntry} (hentry : target.resultEntry execution.logPath = .ok entry) :
    ∃ result, target.toBuildResult execution = .ok result := by
  obtain ⟨hid, hargv, hcwd, hpath, hchecks⟩ :=
    ActionExecutionService.checked_of_outcomeOf hran
  simp only [actionResultChecks, List.forall_mem_cons, hid, hargv, hcwd,
    BuildTargetDescription.request] at hchecks
  obtain ⟨hblank, hempty, harguments, hdirectory, hexcerpt, -, -, htimeout, -⟩ := hchecks
  unfold BuildTargetDescription.toBuildResult BuildExecutionResult.create
  simp only [hentry, ok_bind, hpath]
  refine ⟨_, validated_eq_ok.mpr ⟨rfl, ?_⟩⟩
  simp only [buildResultChecks, List.forall_mem_cons, List.not_mem_nil, false_imp_iff,
    implies_true, and_true]
  refine ⟨hblank, htarget, hempty, harguments, hdirectory, hexcerpt, ?_, ?_, ?_, ?_⟩
  · simp
  · simp
  · simpa only [toBuildStatus_eq_timeout] using htimeout
  · simp

theorem of_toBuildResult (hok : target.toBuildResult execution = .ok result) :
    result.actionId = target.actionId ∧ result.targetId = target.targetId ∧
      (result.status = .passed ↔ execution.status = .passed) ∧
      ∃ entry, target.resultEntry execution.logPath = .ok entry ∧
        result.provenance = target.provenance ++ [entry] := by
  simp only [BuildTargetDescription.toBuildResult, BuildExecutionResult.create, bind_eq_ok,
    validated_eq_ok] at hok
  obtain ⟨entry, hentry, logPath, -, rfl, -⟩ := hok
  exact ⟨rfl, rfl, toBuildStatus_eq_passed, entry, hentry, rfl⟩

end

/-! ## The results of all builds -/

namespace BuildService

theorem length_eq_statusCounts (results : List BuildExecutionResult) :
    results.length = statusCount .passed results + statusCount .failed results +
      statusCount .error results + statusCount .timeout results := by
  induction results with
  | nil => rfl
  | cons result results ih =>
      simp only [statusCount, List.countP_cons, List.length_cons] at ih ⊢
      cases hstatus : result.status <;> simp <;> omega

theorem length_succeededTargetIds (results : List BuildExecutionResult) :
    (succeededTargetIds results).length = statusCount .passed results := by
  rw [succeededTargetIds, List.length_map, statusCount, List.countP_eq_length_filter]

theorem length_failedResults (results : List BuildExecutionResult) :
    (failedResults results).length =
      statusCount .failed results + statusCount .error results + statusCount .timeout results := by
  have htotal := length_eq_statusCounts results
  have hparts : results.length = statusCount .passed results + (failedResults results).length := by
    rw [failedResults, statusCount, ← List.countP_eq_length_filter]
    rw [List.length_eq_countP_add_countP fun result : BuildExecutionResult =>
      decide (result.status = .passed)]
    simp
  omega

/-- A summary is made exactly where no target succeeds twice and its entry is accepted. -/
theorem summary_eq_ok_iff {timeoutSeconds : ℤ} {results : List BuildExecutionResult}
    {result : BuildProjectResult} (htimeout : validateTimeoutSeconds timeoutSeconds = .ok ())
    (htargets : ∀ item ∈ results, isBlank item.targetId = false) :
    summary timeoutSeconds results = .ok result ↔
      (succeededTargetIds results).Nodup ∧
        ∃ entry, summaryEntry (results.flatMap BuildExecutionResult.provenance) = .ok entry ∧
          result =
            { timeoutSeconds := timeoutSeconds
              total := results.length
              passed := statusCount .passed results
              failed := statusCount .failed results
              errors := statusCount .error results
              timeouts := statusCount .timeout results
              succeededTargetIds := succeededTargetIds results
              failedResults := failedResults results
              provenance := [entry] } := by
  have hids : (succeededTargetIds results).any isBlank = false := by
    rw [List.any_eq_false]
    intro targetId hmem
    obtain ⟨item, hitem, rfl⟩ := List.mem_map.mp hmem
    simp [htargets item (List.mem_of_mem_filter hitem)]
  have hstatus : ((failedResults results).any fun item => decide (item.status = .passed)) =
      false := by
    rw [List.any_eq_false]
    intro item hitem
    simpa [failedResults] using (List.mem_filter.mp hitem).2
  have htotal := length_eq_statusCounts results
  have hpassed := length_succeededTargetIds results
  have hfailed := length_failedResults results
  simp only [summary, BuildProjectResult.create, htimeout, ok_bind, bind_eq_ok, validated_eq_ok,
    summaryChecks, List.forall_mem_cons, List.not_mem_nil, false_imp_iff, implies_true, and_true,
    hids, hstatus]
  constructor
  · rintro ⟨entry, hentry, rfl, -, -, -, -, hnodup, -⟩
    exact ⟨by simpa using hnodup, entry, hentry, rfl⟩
  · rintro ⟨hnodup, entry, hentry, rfl⟩
    refine ⟨entry, hentry, rfl, ?_, ?_, ?_, trivial, ?_, trivial, ?_⟩
    · simpa using htotal
    · simpa using hpassed.symm
    · simpa using hfailed.symm
    · simpa using hnodup
    · rfl

end BuildService

namespace ProjectBuild

variable {build : ProjectBuild}

def built (build : ProjectBuild) (target : BuildTargetDescription) :
    PyResult BuildExecutionResult :=
  (build.service.buildTarget (build.worlds target.actionId) build.timeoutSeconds target.actionId
    .empty).1

theorem buildTarget_fst (target : BuildTargetDescription) (logs : RunLogs) :
    (build.service.buildTarget (build.worlds target.actionId) build.timeoutSeconds
      target.actionId logs).1 = build.built target := by
  unfold built BuildService.buildTarget
  simp only [build.timeout, ok_bind]
  cases build.service.describeBuildTarget target.actionId with
  | error error => rfl
  | ok found =>
      simp only [ActionExecutionService.run_eq
        ⟨build.worlds target.actionId, found.request build.timeoutSeconds⟩]
      cases build.service.actions.outcomeOf
          ⟨build.worlds target.actionId, found.request build.timeoutSeconds⟩ with
      | error error => rfl
      | ok execution => rfl

theorem results_eq : build.results = build.targets.mapM build.built :=
  runUntilError_fst (fun target _ logs => buildTarget_fst target logs) build.logs

theorem outcome_eq :
    build.outcome = build.results >>= BuildService.summary build.timeoutSeconds := by
  unfold outcome results BuildService.buildProject
  simp only [build.timeout, ok_bind, build.listed, if_neg build.hasTarget]
  cases runUntilError (fun target : BuildTargetDescription =>
      build.service.buildTarget (build.worlds target.actionId) build.timeoutSeconds
        target.actionId) build.logs build.targets with
  | mk results logs =>
      cases results with
      | error error => rfl
      | ok results => rfl

theorem actionId_of_built {target : BuildTargetDescription} {result : BuildExecutionResult}
    (hok : build.built target = .ok result) : result.actionId = strip target.actionId := by
  unfold built BuildService.buildTarget at hok
  simp only [build.timeout, ok_bind] at hok
  cases hfound : build.service.describeBuildTarget target.actionId with
  | error error =>
      rw [hfound] at hok
      cases hok
  | ok found =>
      have hid : found.actionId = strip target.actionId := by
        unfold BuildService.describeBuildTarget at hfound
        simp only at hfound
        split at hfound
        · exact absurd hfound raiseValueError_ne_ok
        · rw [build.listed, ok_bind] at hfound
          split at hfound
          next other hother =>
            rw [← pure_eq_ok.mp hfound]
            simpa using List.find?_some hother
          next => exact absurd hfound raiseValueError_ne_ok
      rw [hfound] at hok
      simp only [ActionExecutionService.run_eq
        ⟨build.worlds target.actionId, found.request build.timeoutSeconds⟩] at hok
      cases hran : build.service.actions.outcomeOf
          ⟨build.worlds target.actionId, found.request build.timeoutSeconds⟩ with
      | error error =>
          rw [hran] at hok
          cases hok
      | ok execution =>
          rw [hran] at hok
          rw [(of_toBuildResult hok).1, hid]

theorem built_eq {target : BuildTargetDescription} (hmem : target ∈ build.targets)
    (hid : strip target.actionId = target.actionId) :
    build.built target =
      build.service.actions.outcomeOf (build.call target) >>= target.toBuildResult := by
  have hne : target.actionId ≠ "" := by
    intro hempty
    have hblank := (Repository.checked_of_listed build.listed hmem).1
    rw [hempty] at hblank
    exact absurd hblank (by decide)
  have hfound : build.targets.find? (fun other => other.actionId = target.actionId) =
      some target :=
    (leader?_eq_some_iff (Repository.listBuildTargets_facts build.listed).nodup).mpr
      ⟨hmem, rfl⟩
  have hdescribed : build.service.describeBuildTarget target.actionId = .ok target := by
    unfold BuildService.describeBuildTarget
    simp only [hid, if_neg hne, build.listed, ok_bind, hfound]
    rfl
  unfold built BuildService.buildTarget
  simp only [build.timeout, ok_bind, hdescribed,
    ActionExecutionService.run_eq
      ⟨build.worlds target.actionId, target.request build.timeoutSeconds⟩]
  rw [call]
  cases build.service.actions.outcomeOf
      ⟨build.worlds target.actionId, target.request build.timeoutSeconds⟩ with
  | error error => rfl
  | ok execution => rfl

theorem of_outcomeOf {target : BuildTargetDescription} {execution : ActionExecutionResult}
    (hok : build.service.actions.outcomeOf (build.call target) = .ok execution) :
    execution.logPath = build.logPath target ∧
      (execution.status = .passed ↔ build.passes target = true) := by
  obtain ⟨group, process, hexecute, hstatus, hpath⟩ :=
    ActionExecutionService.status_of_outcomeOf hok
  have hgroup := (ActionExecutionService.of_execute hexecute).1
  have hbuilds : runGroupOf "builds" = .ok "builds" := by decide
  rw [show (build.call target).request.runGroup = "builds" from rfl, hbuilds,
    Except.ok.injEq] at hgroup
  constructor
  · rw [hpath, ← hgroup]
    rfl
  · unfold passes
    rw [hexecute, hstatus]
    simp

theorem exists_built_iff {target : BuildTargetDescription} (hmem : target ∈ build.targets)
    (hid : strip target.actionId = target.actionId) :
    (∃ result, build.built target = .ok result) ↔
      build.service.actions.Writes (build.call target) ∧
        target.invocation.cwd.any isBlank = false ∧
        ∃ entry, target.resultEntry (build.logPath target) = .ok entry := by
  obtain ⟨hblank, htarget⟩ := Repository.checked_of_listed build.listed hmem
  rw [built_eq hmem hid]
  constructor
  · rintro ⟨result, hok⟩
    obtain ⟨execution, hran, hresult⟩ := bind_eq_ok.mp hok
    obtain ⟨-, -, -, entry, hentry, -⟩ := of_toBuildResult hresult
    rw [(of_outcomeOf hran).1] at hentry
    have hreturns := (ActionExecutionService.logOf_of_outcomeOf hran).1
    exact ⟨hreturns.writes, hreturns.commandCwd, entry, hentry⟩
  · rintro ⟨hwrites, hcwd, entry, hentry⟩
    have hreturns : build.service.actions.Returns (build.call target) :=
      ⟨hwrites, hblank, build.invocations target hmem, hcwd⟩
    obtain ⟨execution, hran⟩ := ActionExecutionService.exists_outcomeOf hreturns
    rw [← (of_outcomeOf hran).1] at hentry
    obtain ⟨result, hresult⟩ := exists_toBuildResult htarget hran hentry
    use result
    rw [hran, ok_bind, hresult]

/-- A target which was built is reported with its ids, and as passed where its build passes. -/
theorem of_built {target : BuildTargetDescription} {result : BuildExecutionResult}
    (hmem : target ∈ build.targets) (hid : strip target.actionId = target.actionId)
    (hok : build.built target = .ok result) :
    result.actionId = target.actionId ∧ result.targetId = target.targetId ∧
      (result.status = .passed ↔ build.passes target = true) ∧
      (do
        let entry ← target.resultEntry (build.logPath target)
        pure (target.provenance ++ [entry])) = Except.ok result.provenance := by
  rw [built_eq hmem hid] at hok
  obtain ⟨execution, hran, hresult⟩ := bind_eq_ok.mp hok
  obtain ⟨hpath, hstatus⟩ := of_outcomeOf hran
  obtain ⟨haction, htarget, hpassed, entry, hentry, hprovenance⟩ := of_toBuildResult hresult
  rw [hpath] at hentry
  refine ⟨haction, htarget, hpassed.trans hstatus, ?_⟩
  rw [hentry, hprovenance]
  rfl

/-! ## When a build is reported -/

section

variable {results : List BuildExecutionResult}

theorem succeededTargetIds_eq
    (hids : ∀ target ∈ build.targets, strip target.actionId = target.actionId)
    (hrun : build.targets.mapM build.built = .ok results) :
    BuildService.succeededTargetIds results =
      (build.targets.filter build.passes).map BuildTargetDescription.targetId := by
  have hpairs : results.map (fun result => (result.targetId, decide (result.status = .passed))) =
      build.targets.map fun target => (target.targetId, build.passes target) := by
    apply map_outputs_eq _ _ hrun
    intro target hmem result hok
    obtain ⟨-, htarget, hpassed, -⟩ := of_built hmem (hids target hmem) hok
    have hflag : decide (result.status = .passed) = build.passes target := by
      rw [Bool.eq_iff_iff, decide_eq_true_eq, hpassed]
    rw [htarget, hflag]
  have hresults : BuildService.succeededTargetIds results =
      ((results.map fun result =>
        (result.targetId, decide (result.status = .passed))).filter Prod.snd).map Prod.fst := by
    rw [List.filter_map, List.map_map]
    rfl
  rw [hresults, hpairs, List.filter_map, List.map_map]
  rfl

theorem provenance_eq
    (hids : ∀ target ∈ build.targets, strip target.actionId = target.actionId)
    (hrun : build.targets.mapM build.built = .ok results) :
    (build.targets.mapM fun target => do
      let entry ← target.resultEntry (build.logPath target)
      pure (target.provenance ++ [entry])) =
        Except.ok (results.map BuildExecutionResult.provenance) := by
  apply mapM_map_of_step hrun
  intro target hmem result hok
  exact (of_built hmem (hids target hmem) hok).2.2.2

theorem kept_of_reportable (hreportable : build.Reportable) : build.Kept := by
  have hids := hreportable.ids
  obtain ⟨provenance, hprovenance, entry, hentry⟩ := hreportable.evidence
  have hbuilt : ∀ target ∈ build.targets, ∃ result, build.built target = .ok result := by
    intro target hmem
    apply (exists_built_iff hmem (hids target hmem)).mpr
    obtain ⟨entries, -, hstep⟩ := exists_output_of_mem hprovenance hmem
    obtain ⟨own, hown, -⟩ := bind_eq_ok.mp hstep
    exact ⟨hreportable.executes target hmem, hreportable.directories target hmem, own, hown⟩
  obtain ⟨results, hrun⟩ := exists_mapM_iff.mpr hbuilt
  have hflatten : results.flatMap BuildExecutionResult.provenance = provenance.flatten := by
    rw [List.flatMap_def, Except.ok.inj ((provenance_eq hids hrun).symm.trans hprovenance)]
  have hapart := hreportable.apart
  rw [← succeededTargetIds_eq hids hrun] at hapart
  have hactions := map_outputs_eq BuildExecutionResult.actionId BuildTargetDescription.actionId
    hrun fun target hmem result hok => (of_built hmem (hids target hmem) hok).1
  have htargets := map_outputs_eq BuildExecutionResult.targetId BuildTargetDescription.targetId
    hrun fun target hmem result hok => (of_built hmem (hids target hmem) hok).2.1
  have hblank : ∀ item ∈ results, isBlank item.targetId = false := by
    intro item hitem
    have hmem : item.targetId ∈ build.targets.map BuildTargetDescription.targetId := by
      rw [← htargets]
      exact List.mem_map_of_mem hitem
    obtain ⟨target, htarget, heq⟩ := List.mem_map.mp hmem
    rw [← heq]
    exact (Repository.checked_of_listed build.listed htarget).2
  have hsummary : ∃ result, BuildService.summary build.timeoutSeconds results = .ok result ∧
      build.Accounted result results := by
    refine ⟨_, (BuildService.summary_eq_ok_iff build.timeout hblank).mpr
      ⟨hapart, entry, by rw [hflatten, hentry], rfl⟩, ?_⟩
    constructor
    · exact hactions
    · exact htargets
    · simpa using congrArg List.length hactions
    · rfl
    · exact hapart
    · rfl
  obtain ⟨result, hresult, haccounted⟩ := hsummary
  use result, results
  constructor
  · rw [outcome_eq, results_eq, hrun, ok_bind, hresult]
  · exact ⟨results_eq.trans hrun, haccounted⟩

theorem reportable_of_kept (hkept : build.Kept) : build.Reportable := by
  obtain ⟨result, results, houtcome, hresults, haccounted⟩ := hkept
  have hrun : build.targets.mapM build.built = .ok results := by
    rw [← results_eq, hresults]
  have hstripped : results.map BuildExecutionResult.actionId =
      build.targets.map fun target => strip target.actionId := by
    apply map_outputs_eq _ _ hrun
    intro target _ result hok
    exact actionId_of_built hok
  rw [haccounted.actions] at hstripped
  have hids : ∀ target ∈ build.targets, strip target.actionId = target.actionId := by
    intro target hmem
    exact (List.map_inj_left.mp hstripped target hmem).symm
  have hbuilt : ∀ target ∈ build.targets, build.service.actions.Writes (build.call target) ∧
      target.invocation.cwd.any isBlank = false := by
    intro target hmem
    obtain ⟨item, -, hok⟩ := exists_output_of_mem hrun hmem
    obtain ⟨hwrites, hcwd, -⟩ := (exists_built_iff hmem (hids target hmem)).mp ⟨item, hok⟩
    exact ⟨hwrites, hcwd⟩
  rw [outcome_eq, hresults, ok_bind, BuildService.summary] at houtcome
  obtain ⟨entry, hentry, -⟩ := bind_eq_ok.mp houtcome
  rw [List.flatMap_def] at hentry
  have hprovenance := provenance_eq hids hrun
  constructor
  · exact hids
  · exact fun target hmem => (hbuilt target hmem).1
  · exact fun target hmem => (hbuilt target hmem).2
  · rw [← succeededTargetIds_eq hids hrun, ← haccounted.succeeded]
    exact haccounted.once
  · exact ⟨_, hprovenance, entry, hentry⟩

theorem kept_iff_reportable : build.Kept ↔ build.Reportable :=
  ⟨reportable_of_kept, kept_of_reportable⟩

end

end ProjectBuild

end SuitCode
