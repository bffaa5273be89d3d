import SuitCode.BuildReports
import SuitCode.TestBatches

/-!
# What a batch of tests reports

A batch whose first test is run returns if none of its tests is refused and each result is
accepted.
-/

namespace SuitCode

open ExceptList IsoTimestamps KeyedList KeyedTable PosixText StoppingRuns

/-- A batch of known tests which is accepted, with the worlds which the runs find. -/
structure TestBatch where
  repository : Repository
  service : TestExecutionService
  worlds : String → TestWorld
  testIds : List String
  timeoutSeconds : ℤ
  logs : RunLogs
  accepted : validateTestBatch testIds = .ok ()
  timeout : validateTimeoutSeconds timeoutSeconds = .ok ()
  known : ∀ testId ∈ testIds, ∃ placed, repository.providerForTestId testId = .ok placed

namespace TestBatch

variable (batch : TestBatch)

def placedTests : List (PlacedProvider × String) :=
  batch.testIds.filterMap fun testId =>
    match batch.repository.providerForTestId testId with
    | .ok placed => some (placed, testId)
    | .error _ => none

def order : List String := (Repository.groupedIds (batch.placedTests)).flatMap Prod.snd

def description (testId : String) : PyResult TestTargetDescription := do
  let placed ← batch.repository.providerForTestId testId
  batch.repository.describeProviderTestTarget placed.provider testId

def call (testId : String) (description : TestTargetDescription) : RunCall :=
  ⟨(batch.worlds testId).world, description.request batch.timeoutSeconds⟩

def outcomeOf (testId : String) : SnippetResult TestExecutionResult :=
  match batch.description testId with
  | .error error => .error (.python error)
  | .ok description =>
      (batch.service.runTarget (batch.worlds testId).files (batch.worlds testId).world description
        batch.timeoutSeconds .empty).1

def outcome : SnippetResult (List TestExecutionResult) :=
  (batch.repository.runTestTargets batch.service batch.worlds batch.testIds batch.timeoutSeconds
    batch.logs).1

def Executes (testId : String) : Prop :=
  ∃ description, batch.description testId = .ok description ∧
    batch.service.actions.Writes (batch.call testId description)

/-- Once a test has been run, the batch returns one result for each of its tests. -/
def Kept : Prop :=
  (∃ testId, Evaluated batch.outcomeOf batch.order testId ∧ batch.Executes testId) →
    ∃ results, batch.outcome = .ok results ∧
      results.map TestExecutionResult.testId = batch.testIds

structure Reports (testId : String) : Prop where
  executes : batch.Executes testId
  snippets : ∀ description execution, batch.description testId = .ok description →
    batch.service.actions.outcomeOf (batch.call testId description) = .ok execution →
    ∃ rows, batch.service.failureRows (batch.worlds testId).files description execution = .ok rows
  evidence : ∀ description, batch.description testId = .ok description →
    ∃ entry, description.resultEntry
      (runLogPath "tests" (batch.worlds testId).world.now description.testDefinition.id) = .ok entry

/-- If the first test is run, all tests are, and each of them is reported. -/
def Reportable : Prop :=
  ∀ first, batch.testIds.head? = some first → batch.Executes first →
    ∀ testId ∈ batch.testIds, batch.Reports testId

end TestBatch

variable {group : PlacedProvider × List String} {placed : List (PlacedProvider × String)}
  {testId : String} {results : List TestExecutionResult} {testIds : List String}

/-! ## Grouping the tests -/

namespace Repository

variable {repository : Repository}

theorem mem_groupedIds (hmem : group ∈ groupedIds placed) :
    group.2 = (placed.filter fun pair => pair.1.place = group.1.place).map Prod.snd ∧
      ∃ testId, (group.1, testId) ∈ placed := by
  obtain ⟨first, hfirst, rfl⟩ := List.mem_map.mp hmem
  exact ⟨rfl, first.2, mem_of_mem_dedupeBy hfirst⟩

theorem mem_order_iff :
    testId ∈ (groupedIds placed).flatMap Prod.snd ↔ testId ∈ placed.map Prod.snd := by
  constructor
  · intro hmem
    obtain ⟨group, hgroup, hin⟩ := List.mem_flatMap.mp hmem
    rw [(mem_groupedIds hgroup).1] at hin
    obtain ⟨pair, hpair, rfl⟩ := List.mem_map.mp hin
    exact List.mem_map_of_mem (List.mem_of_mem_filter hpair)
  · intro hmem
    obtain ⟨pair, hpair, rfl⟩ := List.mem_map.mp hmem
    have hkey : pair.1.place ∈
        (dedupeBy (fun pair : PlacedProvider × String => pair.1.place) placed).map
          fun pair => pair.1.place :=
      mem_map_dedupeBy_iff.mpr (List.mem_map_of_mem hpair)
    obtain ⟨first, hfirst, hplace⟩ := List.mem_map.mp hkey
    refine List.mem_flatMap.mpr ⟨_, List.mem_map_of_mem hfirst, ?_⟩
    apply List.mem_map_of_mem
    simp only [List.mem_filter, decide_eq_true_eq]
    exact ⟨hpair, hplace.symm⟩

theorem exists_order_cons (first : PlacedProvider × String)
    (rest : List (PlacedProvider × String)) :
    ∃ later, (groupedIds (first :: rest)).flatMap Prod.snd = first.2 :: later := by
  unfold groupedIds
  rw [dedupeBy, dedupeFrom, if_neg (by simp), List.map_cons, List.flatMap_cons]
  rw [List.filter_cons_of_pos (by simp), List.map_cons]
  exact ⟨_, rfl⟩

theorem nodup_order (hdistinct : (placed.map Prod.snd).Nodup) :
    ((groupedIds placed).flatMap Prod.snd).Nodup := by
  rw [List.nodup_flatMap]
  constructor
  · intro group hgroup
    rw [(mem_groupedIds hgroup).1]
    exact hdistinct.sublist (List.filter_sublist.map _)
  · have hplaces := nodup_map_dedupeBy
      (fun pair : PlacedProvider × String => pair.1.place) placed
    unfold groupedIds
    rw [List.pairwise_map]
    refine List.Pairwise.imp ?_ (List.pairwise_map.mp hplaces)
    intro earlier later hne testId hearlier hlater
    obtain ⟨pair, hpair, hid⟩ := List.mem_map.mp hearlier
    obtain ⟨other, hother, rfl⟩ := List.mem_map.mp hlater
    rw [List.mem_filter, decide_eq_true_eq] at hpair hother
    have hsame : pair = other := List.inj_on_of_nodup_map hdistinct hpair.1 hother.1 hid
    apply hne
    rw [← hpair.2, ← hother.2, hsame]

theorem eq_of_place {left right : PlacedProvider} (hleft : left ∈ repository.placedProviders)
    (hright : right ∈ repository.placedProviders) (hplace : left.place = right.place) :
    left = right := by
  obtain ⟨first, hfirst, rfl⟩ := List.mem_map.mp hleft
  obtain ⟨second, hsecond, rfl⟩ := List.mem_map.mp hright
  have hone := (List.mem_zipIdx' hfirst).2
  have htwo := (List.mem_zipIdx' hsecond).2
  simp only at hplace
  simp only [hone, htwo, hplace]

theorem mem_placedProviders {placed : PlacedProvider}
    (hok : repository.providerForTestId testId = .ok placed) :
    placed ∈ repository.placedProviders := by
  unfold providerForTestId at hok
  obtain ⟨index, -, hok⟩ := bind_eq_ok.mp hok
  split at hok
  next found hfound =>
    rw [← pure_eq_ok.mp hok]
    exact List.mem_of_find?_eq_some hfound
  next => exact absurd hok raiseValueError_ne_ok

theorem of_describeProviderTestTarget {provider : Provider} {description : TestTargetDescription}
    (hok : repository.describeProviderTestTarget provider testId = .ok description) :
    description.testDefinition.id = testId ∧
      ∀ check ∈ testTargetChecks description, check.1 = false := by
  simp only [describeProviderTestTarget, bind_eq_ok, validated_eq_ok] at hok
  obtain ⟨discovered, hdiscovered, action, -, rfl, hchecks⟩ := hok
  constructor
  · unfold discoveredTestById at hdiscovered
    split at hdiscovered
    next found hfound =>
      rw [← Except.ok.inj hdiscovered]
      simpa using List.find?_some hfound
    next => exact absurd hdiscovered raiseValueError_ne_ok
  · exact hchecks

end Repository

/-! ## The result of one test -/

theorem TestExecutionService.runTarget_fst (service : TestExecutionService)
    (files : RepositoryFiles) (world : ActionWorld) (description : TestTargetDescription)
    (timeoutSeconds : ℤ) (logs : RunLogs) :
    (service.runTarget files world description timeoutSeconds logs).1 =
      (match service.actions.outcomeOf ⟨world, description.request timeoutSeconds⟩ with
      | .error error => .error (.python error)
      | .ok execution => do
          let rows ← service.failureRows files description execution
          orSnippetError (description.toTestResult execution (rows.map SnippetRow.snippet))) := by
  unfold runTarget
  rw [ActionExecutionService.run_eq ⟨world, description.request timeoutSeconds⟩ logs]
  cases service.actions.outcomeOf ⟨world, description.request timeoutSeconds⟩ with
  | error error => rfl
  | ok execution => rfl

theorem orSnippetError_eq_ok {α : Type} {result : PyResult α} {value : α} :
    orSnippetError result = .ok value ↔ result = .ok value := by
  cases result with
  | error error => simp [orSnippetError]
  | ok found => simp [orSnippetError]

namespace TestBatch

variable {batch : TestBatch}

theorem of_description {description : TestTargetDescription}
    (hok : batch.description testId = .ok description) :
    description.testDefinition.id = testId ∧
      ∀ check ∈ Repository.testTargetChecks description, check.1 = false := by
  obtain ⟨placed, -, hdescribed⟩ := bind_eq_ok.mp hok
  exact Repository.of_describeProviderTestTarget hdescribed

theorem logPath_of_outcomeOf {description : TestTargetDescription}
    {execution : ActionExecutionResult}
    (hok : batch.service.actions.outcomeOf (batch.call testId description) = .ok execution) :
    execution.logPath = runLogPath "tests" (batch.worlds testId).world.now
      description.testDefinition.id := by
  obtain ⟨group, process, hexecute, -, hpath⟩ := ActionExecutionService.status_of_outcomeOf hok
  have hgroup := (ActionExecutionService.of_execute hexecute).1
  have htests : runGroupOf "tests" = .ok "tests" := by decide
  rw [show (batch.call testId description).request.runGroup = "tests" from rfl, htests,
    Except.ok.injEq] at hgroup
  rw [hpath, ← hgroup]
  rfl

theorem exists_outcomeOf_iff (hblank : isBlank testId = false) :
    (∃ result, batch.outcomeOf testId = .ok result) ↔ batch.Reports testId := by
  unfold outcomeOf
  constructor
  · rintro ⟨result, hok⟩
    cases hdescription : batch.description testId with
    | error error =>
        rw [hdescription] at hok
        cases hok
    | ok description =>
        simp only [hdescription, TestExecutionService.runTarget_fst] at hok
        cases hran : batch.service.actions.outcomeOf (batch.call testId description) with
        | error error =>
            rw [call] at hran
            rw [hran] at hok
            cases hok
        | ok execution =>
            have hpath := logPath_of_outcomeOf hran
            have hreturns := (ActionExecutionService.logOf_of_outcomeOf hran).1
            have hcall := hran
            rw [call] at hcall
            rw [hcall] at hok
            obtain ⟨rows, hrows, hresult⟩ := bind_eq_ok.mp hok
            rw [orSnippetError_eq_ok, TestTargetDescription.toTestResult] at hresult
            obtain ⟨entry, hentry, -⟩ := bind_eq_ok.mp hresult
            constructor
            · exact ⟨description, hdescription, hreturns.writes⟩
            · intro other execution' hother hother'
              rw [hdescription, Except.ok.injEq] at hother
              subst hother
              rw [hran, Except.ok.injEq] at hother'
              exact ⟨rows, hother' ▸ hrows⟩
            · intro other hother
              rw [hdescription, Except.ok.injEq] at hother
              subst hother
              rw [← hpath]
              exact ⟨entry, hentry⟩
  · intro hreports
    obtain ⟨description, hdescription, hwrites⟩ := hreports.executes
    obtain ⟨hid, hchecks⟩ := of_description hdescription
    have hreturns : batch.service.actions.Returns (batch.call testId description) := by
      simp only [Repository.testTargetChecks, List.forall_mem_cons] at hchecks
      refine ⟨hwrites, ?_, hchecks.2.1, hchecks.2.2.1⟩
      rwa [← hid] at hblank
    obtain ⟨execution, hran⟩ := ActionExecutionService.exists_outcomeOf hreturns
    obtain ⟨rows, hrows⟩ := hreports.snippets description execution hdescription hran
    obtain ⟨entry, hentry⟩ := hreports.evidence description hdescription
    rw [← logPath_of_outcomeOf hran] at hentry
    obtain ⟨result, hresult, -⟩ := TestTargetDescription.exists_toTestResult hran hchecks hentry
      (rows.map SnippetRow.snippet)
    use result
    rw [call] at hran
    simp only [hdescription, TestExecutionService.runTarget_fst, hran, hrows, ok_bind, hresult,
      orSnippetError]

theorem testId_of_outcomeOf {result : TestExecutionResult}
    (hok : batch.outcomeOf testId = .ok result) : result.testId = testId := by
  unfold outcomeOf at hok
  cases hdescription : batch.description testId with
  | error error =>
      rw [hdescription] at hok
      cases hok
  | ok description =>
      simp only [hdescription, TestExecutionService.runTarget_fst] at hok
      split at hok
      · cases hok
      · obtain ⟨rows, -, hresult⟩ := bind_eq_ok.mp hok
        rw [orSnippetError_eq_ok] at hresult
        simp only [TestTargetDescription.toTestResult, TestExecutionResult.create, bind_eq_ok,
          validated_eq_ok] at hresult
        obtain ⟨entry, -, logPath, -, rfl, -⟩ := hresult
        exact (of_description hdescription).1

/-! ## The loop over the providers -/

structure IsGroup (batch : TestBatch) (group : PlacedProvider × List String) : Prop where
  accepted : validateTestBatch group.2 = .ok ()
  provider : ∀ testId ∈ group.2, batch.repository.providerForTestId testId = .ok group.1

theorem runProviderTests_fst (hgroup : batch.IsGroup group) (logs : RunLogs) :
    (batch.repository.runProviderTests batch.service batch.worlds batch.timeoutSeconds
      group.1.provider group.2 logs).1 = group.2.mapM batch.outcomeOf := by
  unfold Repository.runProviderTests
  simp only [hgroup.accepted, batch.timeout, ok_bind]
  apply runUntilError_fst
  intro testId hmem state
  have hdescription : batch.description testId =
      batch.repository.describeProviderTestTarget group.1.provider testId := by
    rw [description, hgroup.provider testId hmem, ok_bind]
  unfold Repository.runTest outcomeOf
  rw [hdescription]
  cases batch.repository.describeProviderTestTarget group.1.provider testId with
  | error error => rfl
  | ok description => simp only [TestExecutionService.runTarget_fst]

theorem addResults_eq {found : List TestExecutionResult}
    (hdistinct : ((results ++ found).map TestExecutionResult.testId).Nodup) :
    addResults results found = .ok (results ++ found) := by
  induction found generalizing results with
  | nil => rw [addResults, List.append_nil]
  | cons item items ih =>
      have hlist : results ++ item :: items = (results ++ [item]) ++ items := by simp
      have hnew : item.testId ∉ results.map TestExecutionResult.testId := by
        rw [List.map_append, List.map_cons] at hdistinct
        intro hmem
        exact (List.nodup_append.mp hdistinct).2.2 _ hmem _ List.mem_cons_self rfl
      rw [addResults, if_neg hnew, hlist]
      apply ih
      rwa [← hlist]

theorem checkedResults_eq {found : List TestExecutionResult}
    (hids : found.map TestExecutionResult.testId = testIds) (hdistinct : testIds.Nodup) :
    checkedResults testIds found = .ok found := by
  have hdedupe : dedupeBy id testIds = testIds :=
    (dedupeFrom_sublist id [] testIds).eq_of_length (length_dedupeBy_eq_iff.mpr hdistinct)
  unfold checkedResults
  simp only [hids, hdedupe, if_true]

theorem runGroups_eq_ok {groups : List (PlacedProvider × List String)}
    {results : List TestExecutionResult}
    (hgroups : ∀ group ∈ groups, batch.IsGroup group)
    (hresults : ∀ testId ∈ groups.flatMap Prod.snd, ∃ result, batch.outcomeOf testId = .ok result)
    (hdistinct : (results.map TestExecutionResult.testId ++ groups.flatMap Prod.snd).Nodup)
    (logs : RunLogs) :
    ∃ found, (batch.repository.runGroups batch.service batch.worlds batch.timeoutSeconds groups
        results logs).1 = .ok (results ++ found) ∧
      found.map TestExecutionResult.testId = groups.flatMap Prod.snd := by
  induction groups generalizing results logs with
  | nil => exact ⟨[], by rw [List.append_nil, Repository.runGroups], rfl⟩
  | cons group groups ih =>
      rw [List.flatMap_cons] at hresults hdistinct
      have hown := hgroups group List.mem_cons_self
      obtain ⟨own, hrun⟩ := exists_mapM_iff.mpr fun testId hmem =>
        hresults testId (List.mem_append_left _ hmem)
      have hids : own.map TestExecutionResult.testId = group.2 := by
        rw [map_outputs_eq TestExecutionResult.testId id hrun fun testId _ result hok =>
          testId_of_outcomeOf hok, List.map_id]
      have hfront : ((results ++ own).map TestExecutionResult.testId).Nodup := by
        rw [List.map_append, hids]
        rw [← List.append_assoc] at hdistinct
        exact (List.nodup_append.mp hdistinct).1
      have hgroupDistinct : group.2.Nodup := by
        rw [List.map_append, hids] at hfront
        exact (List.nodup_append.mp hfront).2.1
      have hrest : ((results ++ own).map TestExecutionResult.testId ++
          groups.flatMap Prod.snd).Nodup := by
        rw [List.map_append, hids, List.append_assoc]
        exact hdistinct
      have hfirst := runProviderTests_fst hown logs
      rw [hrun] at hfirst
      rw [Repository.runGroups]
      cases hcase : batch.repository.runProviderTests batch.service batch.worlds
          batch.timeoutSeconds group.1.provider group.2 logs with
      | mk outcome after =>
          rw [hcase] at hfirst
          simp only at hfirst
          subst hfirst
          simp only [checkedResults_eq hids hgroupDistinct, ok_bind, addResults_eq hfront]
          obtain ⟨found, hfound, hfoundIds⟩ := ih
            (fun later hlater => hgroups later (List.mem_cons_of_mem _ hlater))
            (fun testId hmem => hresults testId (List.mem_append_right _ hmem))
            hrest after
          refine ⟨own ++ found, ?_, ?_⟩
          · rw [hfound, List.append_assoc]
          · rw [List.map_append, hids, hfoundIds, List.flatMap_cons]

theorem exists_outcome_of_runGroups {groups : List (PlacedProvider × List String)}
    {all : List TestExecutionResult} {logs : RunLogs}
    (hgroups : ∀ group ∈ groups, batch.IsGroup group)
    (hok : (batch.repository.runGroups batch.service batch.worlds batch.timeoutSeconds groups
      results logs).1 = .ok all) :
    ∀ testId ∈ groups.flatMap Prod.snd, ∃ result, batch.outcomeOf testId = .ok result := by
  induction groups generalizing results logs with
  | nil => simp
  | cons group groups ih =>
      intro testId hmem
      rw [List.flatMap_cons, List.mem_append] at hmem
      have hfirst := runProviderTests_fst (hgroups group List.mem_cons_self) logs
      rw [Repository.runGroups] at hok
      cases hcase : batch.repository.runProviderTests batch.service batch.worlds
          batch.timeoutSeconds group.1.provider group.2 logs with
      | mk outcome after =>
          rw [hcase] at hfirst hok
          cases outcome with
          | error error => cases hok
          | ok found =>
              cases hmem with
              | inl hown =>
                  obtain ⟨result, -, hresult⟩ := exists_output_of_mem hfirst.symm hown
                  exact ⟨result, hresult⟩
              | inr hlater =>
                  simp only at hok
                  split at hok
                  · cases hok
                  · exact ih (fun other hother => hgroups other (List.mem_cons_of_mem _ hother))
                      hok testId hlater

/-! ## When a batch is reported -/

theorem checks_of_validateTestBatch (hok : validateTestBatch testIds = .ok ()) :
    testIds ≠ [] ∧ testIds.length ≤ 25 ∧ (∀ testId ∈ testIds, isBlank testId = false) ∧
      testIds.Nodup := by
  obtain ⟨-, hchecks⟩ := validated_eq_ok.mp hok
  simpa [testBatchChecks, List.isEmpty_eq_false_iff] using hchecks

theorem validateTestBatch_of_sublist {some : List String} (hok : validateTestBatch testIds = .ok ())
    (hsublist : some.Sublist testIds) (hsome : some ≠ []) : validateTestBatch some = .ok () := by
  obtain ⟨-, hlength, hblank, hdistinct⟩ := checks_of_validateTestBatch hok
  have hshort := hsublist.length_le
  refine validated_eq_ok.mpr ⟨rfl, ?_⟩
  simp only [testBatchChecks, List.forall_mem_cons, List.not_mem_nil, false_imp_iff,
    implies_true, and_true]
  refine ⟨?_, ?_, ?_, ?_⟩
  · simpa using hsome
  · simp
    omega
  · rw [List.any_eq_false]
    intro testId hmem
    simp [hblank testId (hsublist.subset hmem)]
  · simpa using hdistinct.sublist hsublist

theorem placed_eq (batch : TestBatch)
    (hknown : ∀ testId ∈ testIds, ∃ placed,
      batch.repository.providerForTestId testId = .ok placed) :
    (testIds.mapM fun testId => do
        let provider ← batch.repository.providerForTestId testId
        pure (provider, testId)) =
      Except.ok (testIds.filterMap fun testId =>
        match batch.repository.providerForTestId testId with
        | .ok placed => some (placed, testId)
        | .error _ => none) := by
  induction testIds with
  | nil => rfl
  | cons testId testIds ih =>
      obtain ⟨placed, hplaced⟩ := hknown testId List.mem_cons_self
      rw [List.mapM_cons, ih fun later hlater => hknown later (List.mem_cons_of_mem _ hlater)]
      simp [hplaced, ok_bind]

theorem map_snd_placedTests : batch.placedTests.map Prod.snd = batch.testIds := by
  have hplaced := placed_eq batch batch.known
  have hids := map_outputs_eq Prod.snd id hplaced (by
    intro testId _ pair hok
    obtain ⟨placed, -, hpair⟩ := bind_eq_ok.mp hok
    rw [← pure_eq_ok.mp hpair]
    rfl)
  rwa [List.map_id] at hids

theorem mem_placedTests {pair : PlacedProvider × String} (hmem : pair ∈ batch.placedTests) :
    batch.repository.providerForTestId pair.2 = .ok pair.1 := by
  obtain ⟨testId, -, hsome⟩ := List.mem_filterMap.mp hmem
  split at hsome
  next placed hplaced =>
    rw [← Option.some.inj hsome, hplaced]
  next => cases hsome

theorem batchGroups_eq : batch.repository.batchGroups batch.testIds batch.timeoutSeconds =
    .ok (Repository.groupedIds batch.placedTests) := by
  unfold Repository.batchGroups
  simp only [batch.accepted, batch.timeout, ok_bind]
  rw [placed_eq batch batch.known]
  rfl

theorem isGroup_of_mem (hmem : group ∈ Repository.groupedIds batch.placedTests) :
    batch.IsGroup group := by
  obtain ⟨hids, testId, hfirst⟩ := Repository.mem_groupedIds hmem
  have hsublist : group.2.Sublist batch.testIds := by
    rw [hids, ← map_snd_placedTests]
    exact List.filter_sublist.map _
  constructor
  · apply validateTestBatch_of_sublist batch.accepted hsublist
    rw [hids]
    apply List.ne_nil_of_mem (a := testId)
    exact List.mem_map.mpr ⟨(group.1, testId), by simpa using hfirst, rfl⟩
  · intro other hother
    rw [hids] at hother
    obtain ⟨pair, hpair, rfl⟩ := List.mem_map.mp hother
    rw [List.mem_filter, decide_eq_true_eq] at hpair
    have hprovider := mem_placedTests hpair.1
    have hsame := Repository.eq_of_place (Repository.mem_placedProviders hprovider)
      (Repository.mem_placedProviders (mem_placedTests hfirst)) hpair.2
    rw [hprovider, hsame]

theorem mem_order : testId ∈ batch.order ↔ testId ∈ batch.testIds := by
  rw [order, Repository.mem_order_iff, map_snd_placedTests]

theorem exists_first (batch : TestBatch) :
    ∃ first later, batch.testIds.head? = some first ∧ batch.order = first :: later := by
  have hids : batch.placedTests.map Prod.snd = batch.testIds := map_snd_placedTests
  have hne := (checks_of_validateTestBatch batch.accepted).1
  cases hplaced : batch.placedTests with
  | nil =>
      rw [hplaced] at hids
      exact absurd hids.symm hne
  | cons first rest =>
      rw [hplaced, List.map_cons] at hids
      obtain ⟨later, hlater⟩ := Repository.exists_order_cons first rest
      exact ⟨first.2, later, by rw [← hids]; rfl, by rw [order, hplaced, hlater]⟩

theorem outcome_of_results
    (hresults : ∀ testId ∈ batch.testIds, ∃ result, batch.outcomeOf testId = .ok result) :
    ∃ results, batch.outcome = .ok results ∧
      results.map TestExecutionResult.testId = batch.testIds := by
  have hdistinct := (checks_of_validateTestBatch batch.accepted).2.2.2
  have hgroups : ∀ group ∈ Repository.groupedIds batch.placedTests, batch.IsGroup group :=
    fun group hmem => isGroup_of_mem hmem
  have horder : batch.order.Nodup := by
    apply Repository.nodup_order
    rwa [map_snd_placedTests]
  obtain ⟨found, hfound, hids⟩ := @runGroups_eq_ok batch _ [] hgroups
    (fun testId hmem => hresults testId (mem_order.mp hmem)) horder batch.logs
  have hlookup : ∀ testId ∈ batch.testIds, ∃ result,
      Repository.resultById found testId = .ok result := by
    intro testId hmem
    have hin : testId ∈ found.map TestExecutionResult.testId := by
      rw [hids]
      exact mem_order.mpr hmem
    obtain ⟨result, hresult, heq⟩ := List.mem_map.mp hin
    unfold Repository.resultById
    cases hfind : found.find? fun item => item.testId = testId with
    | none =>
        have habsent := List.find?_eq_none.mp hfind result hresult
        rw [decide_eq_true_eq] at habsent
        exact absurd heq habsent
    | some item => exact ⟨item, rfl⟩
  obtain ⟨results, hrun⟩ := exists_mapM_iff.mpr hlookup
  use results
  constructor
  · unfold outcome Repository.runTestTargets
    rw [batchGroups_eq]
    simp only
    cases hcase : batch.repository.runGroups batch.service batch.worlds batch.timeoutSeconds
        (Repository.groupedIds batch.placedTests) [] batch.logs with
    | mk outcome logs =>
        rw [hcase] at hfound
        simp only [List.nil_append] at hfound
        subst hfound
        simp only [hrun, orSnippetError]
  · have hmap := map_outputs_eq TestExecutionResult.testId id hrun (by
      intro testId _ result hok
      unfold Repository.resultById at hok
      split at hok
      next item hitem =>
        rw [← Except.ok.inj hok]
        simpa using List.find?_some hitem
      next => cases hok)
    rwa [List.map_id] at hmap

theorem results_of_outcome (hok : batch.outcome = .ok results) :
    ∀ testId ∈ batch.testIds, ∃ result, batch.outcomeOf testId = .ok result := by
  intro testId hmem
  unfold outcome Repository.runTestTargets at hok
  rw [batchGroups_eq] at hok
  simp only at hok
  cases hcase : batch.repository.runGroups batch.service batch.worlds batch.timeoutSeconds
      (Repository.groupedIds batch.placedTests) [] batch.logs with
  | mk outcome logs =>
      rw [hcase] at hok
      cases outcome with
      | error error => cases hok
      | ok all =>
          exact exists_outcome_of_runGroups (fun group hgroup => isGroup_of_mem hgroup)
            (congrArg Prod.fst hcase) testId (mem_order.mpr hmem)

theorem kept_iff_reportable : batch.Kept ↔ batch.Reportable := by
  obtain ⟨first, later, hhead, horder⟩ := exists_first batch
  obtain ⟨-, -, hblank, -⟩ := checks_of_validateTestBatch batch.accepted
  have hfirst : first ∈ batch.testIds := List.mem_of_mem_head? hhead
  constructor
  · intro hkept other hother hexecutes testId hmem
    rw [hhead, Option.some.injEq] at hother
    subst hother
    have hevaluated : Evaluated batch.outcomeOf batch.order first := by
      rw [horder]
      exact evaluated_first _ _ _
    obtain ⟨results, hok, -⟩ := hkept ⟨first, hevaluated, hexecutes⟩
    exact (exists_outcomeOf_iff (hblank testId hmem)).mp (results_of_outcome hok testId hmem)
  · rintro hreportable ⟨testId, hevaluated, hexecutes⟩
    rw [horder] at hevaluated
    have hstarted : batch.Executes first := by
      cases hevaluated.of_cons with
      | inl heq => rwa [← heq]
      | inr hvalue => exact ((exists_outcomeOf_iff (hblank first hfirst)).mp hvalue).executes
    apply outcome_of_results
    intro other hother
    exact (exists_outcomeOf_iff (hblank other hother)).mpr
      (hreportable first hhead hstarted other hother)

end TestBatch

/-! ## Builds and tests -/

/-- Finished builds and tests are kept exactly where they are reported. -/
theorem finishedRuns_kept_iff (build : ProjectBuild) (batch : TestBatch) :
    (build.Kept ↔ build.Reportable) ∧ (batch.Kept ↔ batch.Reportable) :=
  ⟨ProjectBuild.kept_iff_reportable, TestBatch.kept_iff_reportable⟩

/-! ## Two builds of one component -/

def siteEntry : ProvenanceEntry :=
  ⟨.authoritative, .manifest, some "npm", "scripts of the package", ["site/package.json"]⟩

/-- An action which builds the component `site`. -/
def siteAction (id : String) (arguments : List String) : RepositoryAction :=
  { id := id
    name := "build"
    kind := .buildExecution
    providerId := "npm"
    targetId := "component:npm:site"
    targetKind := .component
    ownerIds := ["component:npm:site"]
    proofFacets := []
    invocation := ⟨"npm" :: arguments, none⟩
    dryRunSupported := false
    provenance := [siteEntry] }

def siteProvider : Provider where
  providerId := "npm"
  actions := [siteAction "action:npm:build:lib" ["run", "build"],
    siteAction "action:npm:build:types" ["run", "types"]]

def siteRepository : Repository :=
  ⟨"/repo", [siteProvider], fun _ => [.architecture]⟩

def siteTarget (id : String) (arguments : List String) : BuildTargetDescription :=
  { actionId := id
    name := "build"
    providerId := "npm"
    targetId := "component:npm:site"
    targetKind := .component
    ownerIds := ["component:npm:site"]
    proofFacets := []
    invocation := ⟨"npm" :: arguments, none⟩
    dryRunSupported := false
    provenance := [siteEntry] }

theorem exited (htimedOut : false = true) : (some 0 : Option ℤ) = none := by cases htimedOut

def passingWorld : ActionWorld :=
  { TargetRun.webWorld with
    process := fun _ _ _ => .ok ⟨some 0, "", false, 3, exited⟩ }

theorem siteTargets_listed : siteRepository.listBuildTargets =
    .ok [siteTarget "action:npm:build:lib" ["run", "build"],
      siteTarget "action:npm:build:types" ["run", "types"]] := by
  decide +kernel

def siteBuild : ProjectBuild :=
  { service := ⟨⟨["repo"]⟩, siteRepository⟩
    targets := [siteTarget "action:npm:build:lib" ["run", "build"],
      siteTarget "action:npm:build:types" ["run", "types"]]
    worlds := fun _ => passingWorld
    timeoutSeconds := 300
    logs := .empty
    listed := siteTargets_listed
    hasTarget := List.cons_ne_nil _ _
    invocations := by decide
    timeout := by decide }

theorem siteBuild_not_kept : ¬ siteBuild.Kept := by
  intro hkept
  have hreportable := ProjectBuild.kept_iff_reportable.mp hkept
  have hpasses : siteBuild.targets.filter siteBuild.passes = siteBuild.targets := by
    decide
  have hapart := hreportable.apart
  rw [hpasses] at hapart
  exact absurd hapart (by decide)

/-- Runs which have finished are lost with the report of their batch. -/
theorem finishedRuns_not_always_kept :
    ¬ ((∀ build : ProjectBuild, build.Kept) ∧ ∀ batch : TestBatch, batch.Kept) := by
  rintro ⟨hbuilds, -⟩
  exact siteBuild_not_kept (hbuilds siteBuild)

end SuitCode
