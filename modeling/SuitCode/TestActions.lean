import SuitCode.FileRouting
import SuitCode.RunnerRelations

/-!
# Test actions of an npm workspace

Tests are discovered over all packages of a workspace, and actions are derived
through its components.  A test whose package is an aggregator has no action.
-/

namespace SuitCode

open PosixText KeyedList ExceptList

/-! ## The action of a test -/

namespace Repository

def testActionsOf (providerId : String) (listed : List RepositoryAction) :
    List RepositoryAction :=
  listed.filter fun action => action.providerId = providerId && action.kind = .testExecution

def testActionForId (repository : Repository) (providerId testId : String) :
    PyResult RepositoryAction := do
  let listed ← repository.listActions ⟨.testId testId, []⟩
  match testActionsOf providerId listed with
  | [] =>
      raiseValueError
        ("missing " ++ providerId ++ " test action for test id `" ++ testId ++ "`")
  | [action] => pure action
  | _ =>
      raiseValueError
        ("ambiguous " ++ providerId ++ " test actions for test id `" ++ testId ++ "`")

def discoveredTestById (provider : Provider) (testId : String) :
    PyResult DiscoveredTestDefinition :=
  match provider.discoveredTests.find? fun test => test.testDefinition.id = testId with
  | some test => .ok test
  | none =>
      raiseValueError ("unknown " ++ provider.providerId ++ " test id: `" ++ testId ++ "`")

def testTargetChecks (description : TestTargetDescription) : List (Bool × String) :=
  [(description.commandArgv.isEmpty, "command_argv must not be empty"),
    (description.commandArgv.any isBlank, "command_argv must not contain empty arguments"),
    (description.commandCwd.any isBlank, "command_cwd must not be empty"),
    (description.warning.any isBlank, "warning must not be empty"),
    (description.provenance.isEmpty, "provenance must not be empty"),
    (!description.provenance.any fun entry =>
        entry.sourceKind = .testTool || entry.sourceKind = .heuristic,
      "test target description must include test-tool or heuristic provenance"),
    (description.isAuthoritative && !description.provenance.any fun entry =>
        entry.confidenceMode = .authoritative,
      "authoritative test target descriptions must include authoritative provenance"),
    (!description.isAuthoritative && description.warning.isNone,
      "heuristic test target descriptions must include warning")]

def heuristicTestWarning : String :=
  "Test target scope is heuristic; command is deterministic but may include tests beyond " ++
    "exact ownership."

/-- `describe_test_target` of a provider. -/
def describeProviderTestTarget (repository : Repository) (provider : Provider)
    (testId : String) : PyResult TestTargetDescription := do
  let discovered ← discoveredTestById provider testId
  let action ← repository.testActionForId provider.providerId testId
  let description : TestTargetDescription :=
    { testDefinition := discovered.testDefinition
      commandArgv := action.invocation.argv
      commandCwd := action.invocation.cwd
      isAuthoritative := discovered.isAuthoritative
      warning := if discovered.isAuthoritative then none else some heuristicTestWarning
      provenance := discovered.provenance ++ action.provenance }
  validated (testTargetChecks description) description

/-- The test has one action, which its description is made from. -/
structure TestRunnable (repository : Repository) (provider : Provider) (testId : String) :
    Prop where
  oneAction : ∃ listed, repository.listActions ⟨.testId testId, []⟩ = .ok listed ∧
    ∃ action, testActionsOf provider.providerId listed = [action]
  described : ∃ description,
    repository.describeProviderTestTarget provider testId =
      validated (testTargetChecks description) description

/-- The owners and the actions of the repository can be listed. -/
structure ListsActions (repository : Repository) : Prop where
  owners : ∃ index, repository.buildOwnershipIndex = .ok index
  actions : ∃ actions, repository.allActions = .ok actions

end Repository

/-- The provider answers what the attachment answers of its tests and actions. -/
structure NpmAttachment.ReportsTests (npm : NpmAttachment) (provider : Provider) : Prop where
  providerId_eq : provider.providerId = "npm"
  tests_eq : npm.getDiscoveredTests = .ok provider.discoveredTests
  actions_eq : npm.getActions = .ok provider.actions

variable {action : RepositoryAction} {actions listed : List RepositoryAction}
  {index : OwnershipIndex} {components : List NpmPackageAnalysis} {item : ProviderActionSpec}

/-! ## Listing the actions of a test -/

namespace Repository

theorem indexActions_providerId {seen : List String} {pairs : List (RepositoryAction × Provider)}
    (hok : indexActions seen pairs = .ok actions) :
    ∀ pair ∈ pairs, pair.1.providerId = pair.2.providerId := by
  induction pairs generalizing seen actions with
  | nil => simp
  | cons pair pairs ih =>
      unfold indexActions at hok
      split at hok
      · simp at hok
      · rename_i hprovider
        split at hok
        · simp at hok
        · obtain ⟨rest, hrest, -⟩ := bind_eq_ok.mp hok
          intro other hother
          cases List.mem_cons.mp hother with
          | inl heq =>
              rw [heq]
              exact not_not.mp hprovider
          | inr hmem => exact ih hrest other hmem

theorem mem_allActions_iff {repository : Repository} (hok : repository.allActions = .ok actions) :
    action ∈ actions ↔ ∃ provider ∈ repository.providers, action ∈ provider.actions ∧
      action.providerId = provider.providerId := by
  rw [(indexActions_facts hok).1]
  simp only [List.mem_map, List.mem_flatMap]
  constructor
  · rintro ⟨pair, ⟨provider, hprovider, reported, hreported, rfl⟩, rfl⟩
    have hpair : (reported, provider) ∈ repository.providers.flatMap fun provider =>
        provider.actions.map fun action => (action, provider) :=
      List.mem_flatMap.mpr ⟨provider, hprovider, List.mem_map_of_mem hreported⟩
    exact ⟨provider, hprovider, hreported, indexActions_providerId hok _ hpair⟩
  · rintro ⟨provider, hprovider, hreported, -⟩
    exact ⟨(action, provider), ⟨provider, hprovider, action, hreported, rfl⟩, rfl⟩

theorem listActions_testId_eq_ok {repository : Repository} {testId : String}
    (hok : repository.listActions ⟨.testId testId, []⟩ = .ok listed) :
    ∃ actions, repository.allActions = .ok actions ∧
      (∃ index, repository.buildOwnershipIndex = .ok index) ∧
        listed = sortedBy actionSortKey (actions.filter fun action =>
          action.targetKind = .testDefinition && action.targetId = testId) := by
  simp only [listActions, filterBySelector, filterByKind, List.isEmpty_nil, if_true,
    bind_eq_ok, pure_eq_ok] at hok
  obtain ⟨actions, hactions, selected, ⟨owner, howner, hselected⟩, rfl⟩ := hok
  refine ⟨actions, hactions, ?_, ?_⟩
  · obtain ⟨index, hindex, -⟩ := bind_eq_ok.mp howner
    exact ⟨index, hindex⟩
  · split at hselected
    · simp at hselected
    · rw [← pure_eq_ok.mp hselected]

theorem testPairs_nodup {repository : Repository} (hfacts : OwnershipIndexFacts repository index) :
    (((repository.providersForRole .test).flatMap fun provider =>
      provider.discoveredTests.map fun test => (test, provider)).map fun pair =>
        pair.1.testDefinition.id).Nodup := by
  have hnodes := hfacts.ownerNodes_eq
  simp only [ownerNodes, getTests, bind_eq_ok] at hnodes
  obtain ⟨tests, ⟨discovered, hdiscovered, -⟩, -⟩ := hnodes
  have hnodup := discoveredIds_nodup hfacts hdiscovered
  simp only [getDiscoveredTests, discoveredTestIndex, bind_eq_ok, pure_eq_ok] at hdiscovered
  obtain ⟨pairs, hpairs, rfl⟩ := hdiscovered
  rw [indexDiscoveredTests_eq hpairs] at hnodup
  have hperm := (sortedBy_perm (fun test => test.testDefinition.id)
    (((repository.providersForRole .test).flatMap fun provider =>
      provider.discoveredTests.map fun test => (test, provider)).map Prod.fst)).map
        fun test => test.testDefinition.id
  have hunsorted := hperm.nodup_iff.mp hnodup
  rwa [List.map_map] at hunsorted

theorem provider_eq_of_testId {repository : Repository} {provider other : Provider}
    {test otherTest : DiscoveredTestDefinition} (hfacts : OwnershipIndexFacts repository index)
    (hprovider : provider ∈ repository.providersForRole .test)
    (hother : other ∈ repository.providersForRole .test) (htest : test ∈ provider.discoveredTests)
    (hotherTest : otherTest ∈ other.discoveredTests)
    (hid : otherTest.testDefinition.id = test.testDefinition.id) : other = provider := by
  have hpair : (test, provider) ∈ (repository.providersForRole .test).flatMap
      fun provider => provider.discoveredTests.map fun test => (test, provider) :=
    List.mem_flatMap.mpr ⟨provider, hprovider, List.mem_map_of_mem htest⟩
  have hotherPair : (otherTest, other) ∈ (repository.providersForRole .test).flatMap
      fun provider => provider.discoveredTests.map fun test => (test, provider) :=
    List.mem_flatMap.mpr ⟨other, hother, List.mem_map_of_mem hotherTest⟩
  have heq := List.inj_on_of_nodup_map (testPairs_nodup hfacts) hotherPair hpair hid
  exact congrArg Prod.snd heq

theorem testNode_mem
    {repository : Repository} {nodes : List OwnedNodeInfo} {provider : Provider}
    {test : DiscoveredTestDefinition}
    (hnodes : repository.ownerNodes = .ok nodes)
    (hprovider : provider ∈ repository.providersForRole .test)
    (htest : test ∈ provider.discoveredTests) :
    ⟨test.testDefinition.id, .testDefinition, test.testDefinition.name⟩ ∈ nodes := by
  simp only [ownerNodes, getTests, getDiscoveredTests, discoveredTestIndex, bind_eq_ok,
    pure_eq_ok] at hnodes
  obtain ⟨tests, ⟨discovered, ⟨pairs, hpairs, rfl⟩, rfl⟩, rfl⟩ := hnodes
  rw [indexDiscoveredTests_eq hpairs]
  apply List.mem_append_right
  simp only [List.map_map, List.mem_map, mem_sortedBy]
  refine ⟨test, ⟨(test, provider), ?_, rfl⟩, rfl⟩
  exact List.mem_flatMap.mpr ⟨provider, hprovider, List.mem_map_of_mem htest⟩

theorem listActions_testId_of_listsActions
    {repository : Repository} {provider : Provider} {test : DiscoveredTestDefinition}
    (hlists : repository.ListsActions)
    (hprovider : provider ∈ repository.providersForRole .test)
    (htest : test ∈ provider.discoveredTests) :
    ∃ listed, repository.listActions ⟨.testId test.testDefinition.id, []⟩ = .ok listed := by
  obtain ⟨index, hindex⟩ := hlists.owners
  obtain ⟨actions, hactions⟩ := hlists.actions
  have hfacts := buildOwnershipIndex_facts hindex
  have howner : repository.resolveOwner test.testDefinition.id =
      .ok ⟨test.testDefinition.id, .testDefinition, test.testDefinition.name⟩ := by
    unfold resolveOwner
    rw [hindex, ok_bind]
    exact ownerInfo_of_mem hfacts (testNode_mem hfacts.ownerNodes_eq hprovider htest)
  unfold listActions filterBySelector
  rw [hactions, ok_bind]
  dsimp only
  rw [howner, ok_bind]
  exact ⟨_, rfl⟩

end Repository

/-! ## The test actions of the provider -/

theorem npmTestId_injective : Function.Injective npmTestId := by
  intro left right heq
  simpa [npmTestId] using heq

theorem componentIdByPackage_isSome_iff {packageName : String} :
    (componentIdByPackage components packageName).isSome ↔
      ∃ component ∈ components, component.packageName = packageName := by
  unfold componentIdByPackage
  rw [Option.isSome_map]
  constructor
  · intro hsome
    obtain ⟨component, hleader⟩ := Option.isSome_iff_exists.mp hsome
    exact ⟨component, leader?_mem hleader, leader?_key hleader⟩
  · rintro ⟨component, hmem, hname⟩
    obtain ⟨first, hfirst⟩ := exists_leader NpmPackageAnalysis.packageName hmem
    rw [← hname, hfirst]
    rfl

structure TestSpecOf (packageName : String) (item : ProviderActionSpec) : Prop where
  actionId_eq : item.actionId = "action:npm:test:" ++ packageName
  kind_eq : item.kind = .testExecution
  targetId_eq : item.targetId = npmTestId packageName
  targetKind_eq : item.targetKind = .testDefinition

theorem npmTestAction_eq_some {runners : List NpmRunnerAnalysis} {test : NpmTestAnalysis}
    (hsome : npmTestAction components runners test = some item) :
    TestSpecOf test.packageName item ∧
      ∃ component ∈ components, component.packageName = test.packageName := by
  unfold npmTestAction at hsome
  obtain ⟨componentId, hcomponent, rfl⟩ := Option.map_eq_some_iff.mp hsome
  constructor
  · exact ⟨rfl, rfl, rfl, rfl⟩
  · rw [← componentIdByPackage_isSome_iff, hcomponent]
    rfl

theorem mem_npmActions_iff_of_test {runners : List NpmRunnerAnalysis} {tests : List NpmTestAnalysis}
    {items : List ProviderActionSpec}
    (hok : discoverNpmActions components runners tests = .ok items)
    (hkind : item.kind = .testExecution) :
    item ∈ items ↔ ∃ test ∈ tests, npmTestAction components runners test = some item := by
  rw [mem_of_finalizeActions hok, List.mem_append, List.mem_filterMap, or_iff_right]
  intro hrunner
  obtain ⟨runner, -, hitem⟩ := List.mem_flatMap.mp hrunner
  unfold npmRunnerActions at hitem
  cases List.mem_cons.mp hitem with
  | inl heq =>
      rw [heq] at hkind
      cases hkind
  | inr hbuild =>
      split at hbuild
      · obtain ⟨componentId, -, rfl⟩ := Option.map_eq_some_iff.mp (Option.mem_toList.mp hbuild)
        cases hkind
      · cases hbuild

theorem toDiscoveredTest_id
    {analysis : NpmTestAnalysis} {test : DiscoveredTestDefinition}
    (hok : toDiscoveredTest analysis = .ok test) :
    test.testDefinition.id = npmTestId analysis.packageName := by
  unfold toDiscoveredTest at hok
  obtain ⟨entry, -, hok⟩ := bind_eq_ok.mp hok
  rw [← pure_eq_ok.mp hok]

namespace NpmAttachment

section Reports

variable {npm : NpmAttachment} {provider : Provider} (hreports : npm.ReportsTests provider)
include hreports

theorem ReportsTests.analyses :
    ∃ components runners tests items,
      npm.componentAnalyses = .ok components ∧ npm.testAnalyses = .ok tests ∧
        discoverNpmActions components runners tests = .ok items ∧
          ProviderActionTranslator.repositoryActions ⟨"npm", "jest"⟩ items =
            .ok provider.actions := by
  have hactions := hreports.actions_eq
  simp only [getActions, actionSpecs, bind_eq_ok] at hactions
  obtain ⟨items, ⟨components, hcomponents, runners, -, tests, htests, hitems⟩, hactions⟩ :=
    hactions
  exact ⟨components, runners, tests, items, hcomponents, htests, hitems, hactions⟩

theorem ReportsTests.mem_tests_iff
    {tests : List NpmTestAnalysis} (htests : npm.testAnalyses = .ok tests) (name : String) :
    (∃ test ∈ provider.discoveredTests, test.testDefinition.id = npmTestId name) ↔
      ∃ test ∈ tests, test.packageName = name := by
  have hdiscovered := hreports.tests_eq
  simp only [getDiscoveredTests, htests, ok_bind, bind_eq_ok, pure_eq_ok] at hdiscovered
  obtain ⟨found, hfound, hsorted⟩ := hdiscovered
  rw [← hsorted]
  simp only [mem_sortedBy]
  constructor
  · rintro ⟨test, htest, hid⟩
    obtain ⟨analysis, hanalysis, hrun⟩ := exists_input_of_mem hfound htest
    refine ⟨analysis, hanalysis, ?_⟩
    rw [toDiscoveredTest_id hrun] at hid
    exact npmTestId_injective hid
  · rintro ⟨analysis, hanalysis, rfl⟩
    obtain ⟨test, htest, hrun⟩ := exists_output_of_mem hfound hanalysis
    exact ⟨test, htest, toDiscoveredTest_id hrun⟩

end Reports

structure TestActionOf (packageName : String) (action : RepositoryAction) : Prop where
  id_eq : action.id = "action:npm:test:" ++ packageName
  kind_eq : action.kind = .testExecution
  targetId_eq : action.targetId = npmTestId packageName
  targetKind_eq : action.targetKind = .testDefinition

theorem TestActionOf.of_spec {packageName : String} (hspec : TestSpecOf packageName item)
    (hof : ProviderActionTranslator.ActionOf ⟨"npm", "jest"⟩ item action) :
    TestActionOf packageName action := by
  constructor
  case id_eq => exact hof.id_eq.trans hspec.actionId_eq
  case kind_eq => exact hof.kind_eq.trans hspec.kind_eq
  case targetId_eq => exact hof.targetId_eq.trans hspec.targetId_eq
  case targetKind_eq => exact hof.targetKind_eq.trans hspec.targetKind_eq

theorem ReportsTests.of_testAction {npm : NpmAttachment} {provider : Provider}
    (hreports : npm.ReportsTests provider) (haction : action ∈ provider.actions)
    (hkind : action.kind = .testExecution) :
    ∃ name, TestActionOf name action ∧
      (∃ test ∈ provider.discoveredTests, test.testDefinition.id = npmTestId name) ∧
        ∃ components, npm.componentAnalyses = .ok components ∧
          ∃ component ∈ components, component.packageName = name := by
  obtain ⟨components, runners, tests, items, hcomponents, htests, hitems, hactions⟩ :=
    hreports.analyses
  obtain ⟨item, hitem, hof⟩ := ProviderActionTranslator.exists_spec_of_action hactions haction
  have hitemKind : item.kind = .testExecution := by rw [← hof.kind_eq, hkind]
  obtain ⟨test, htest, hsome⟩ := (mem_npmActions_iff_of_test hitems hitemKind).mp hitem
  obtain ⟨hspec, hcomponent⟩ := npmTestAction_eq_some hsome
  refine ⟨test.packageName, .of_spec hspec hof, ?_, components, hcomponents, hcomponent⟩
  exact (hreports.mem_tests_iff htests test.packageName).mpr ⟨test, htest, rfl⟩

theorem ReportsTests.exists_testAction {npm : NpmAttachment} {provider : Provider}
    (hreports : npm.ReportsTests provider) {name : String}
    (hcomponents : npm.componentAnalyses = .ok components)
    (hcomponent : ∃ component ∈ components, component.packageName = name)
    (htest : ∃ test ∈ provider.discoveredTests, test.testDefinition.id = npmTestId name) :
    ∃ action ∈ provider.actions, TestActionOf name action := by
  obtain ⟨analyses, runners, tests, items, hanalyses, htests, hitems, hactions⟩ :=
    hreports.analyses
  have hsame : analyses = components := Except.ok.inj (hanalyses.symm.trans hcomponents)
  subst hsame
  obtain ⟨test, hmem, hname⟩ := (hreports.mem_tests_iff htests name).mp htest
  have hsome : (npmTestAction analyses runners test).isSome := by
    unfold npmTestAction
    rw [Option.isSome_map, componentIdByPackage_isSome_iff, hname]
    exact hcomponent
  obtain ⟨item, hitem⟩ := Option.isSome_iff_exists.mp hsome
  have hspec := (npmTestAction_eq_some hitem).1
  rw [hname] at hspec
  have hlisted := (mem_npmActions_iff_of_test hitems hspec.kind_eq).mpr ⟨test, hmem, hitem⟩
  obtain ⟨action, haction, hof⟩ :=
    ProviderActionTranslator.exists_action_of_spec hactions hlisted
  exact ⟨action, haction, .of_spec hspec hof⟩

end NpmAttachment

/-! ## Runnable tests -/

namespace Repository

/-- All npm providers of the repository answer what their attachments answer. -/
def NpmProvidersReport (repository : Repository) : Prop :=
  ∀ provider ∈ repository.providers, provider.providerId = "npm" →
    ∃ npm : NpmAttachment, npm.ReportsTests provider

section Runnable

variable {repository : Repository} {provider : Provider} {npm : NpmAttachment}
  {name : String} {test : DiscoveredTestDefinition}
  (hproviders : repository.NpmProvidersReport)
  (hprovider : provider ∈ repository.providersForRole .test)
  (hreports : npm.ReportsTests provider)
  (htest : test ∈ provider.discoveredTests)
  (hid : test.testDefinition.id = npmTestId name)

include hproviders hprovider hreports htest hid

theorem testAction_of_listed (hindex : repository.buildOwnershipIndex = .ok index)
    (hactions : repository.allActions = .ok actions) (haction : action ∈ actions)
    (hnpm : action.providerId = "npm") (hkind : action.kind = .testExecution)
    (htarget : action.targetId = test.testDefinition.id) :
    action ∈ provider.actions ∧ NpmAttachment.TestActionOf name action := by
  obtain ⟨other, hother, hreported, hproviderId⟩ := (mem_allActions_iff hactions).mp haction
  rw [hnpm] at hproviderId
  obtain ⟨attachment, hattachment⟩ := hproviders other hother hproviderId.symm
  obtain ⟨found, hof, ⟨otherTest, hotherTest, hotherId⟩, -⟩ :=
    hattachment.of_testAction hreported hkind
  have hfound : found = name := by
    rw [hof.targetId_eq, hid] at htarget
    exact npmTestId_injective htarget
  subst hfound
  have hotherRole : other ∈ repository.providersForRole .test := by
    have hrole := List.of_mem_filter hprovider
    rw [hreports.providerId_eq, hproviderId] at hrole
    exact List.mem_filter.mpr ⟨hother, hrole⟩
  have hsame := provider_eq_of_testId (buildOwnershipIndex_facts hindex) hprovider hotherRole
    htest hotherTest (hotherId.trans hid.symm)
  rw [← hsame]
  exact ⟨hreported, hof⟩

theorem exists_component_of_oneAction
    (hlisted : repository.listActions ⟨.testId test.testDefinition.id, []⟩ = .ok listed)
    (haction : action ∈ testActionsOf "npm" listed) :
    ∃ components, npm.componentAnalyses = .ok components ∧
      ∃ component ∈ components, component.packageName = name := by
  obtain ⟨actions, hactions, ⟨index, hindex⟩, rfl⟩ := listActions_testId_eq_ok hlisted
  simp only [testActionsOf, List.mem_filter, mem_sortedBy, Bool.and_eq_true,
    decide_eq_true_eq] at haction
  obtain ⟨⟨hmem, -, htarget⟩, hnpm, hkind⟩ := haction
  obtain ⟨hreported, hof⟩ := testAction_of_listed hproviders hprovider hreports htest hid
    hindex hactions hmem hnpm hkind htarget
  obtain ⟨found, hfound, -, hcomponents⟩ := hreports.of_testAction hreported hof.kind_eq
  have hsame : found = name :=
    npmTestId_injective (hfound.targetId_eq.symm.trans hof.targetId_eq)
  rwa [hsame] at hcomponents

theorem oneAction_of_component
    (hlists : repository.ListsActions)
    (hcomponents : ∃ components, npm.componentAnalyses = .ok components ∧
      ∃ component ∈ components, component.packageName = name) :
    ∃ listed, repository.listActions ⟨.testId test.testDefinition.id, []⟩ = .ok listed ∧
      ∃ action, testActionsOf "npm" listed = [action] := by
  obtain ⟨components, hanalyses, hcomponent⟩ := hcomponents
  obtain ⟨action, hreported, hof⟩ :=
    hreports.exists_testAction hanalyses hcomponent ⟨test, htest, hid⟩
  obtain ⟨listed, hlisted⟩ := listActions_testId_of_listsActions hlists hprovider htest
  refine ⟨listed, hlisted, action, ?_⟩
  have hnodup := (listActions_facts hlisted).nodup
  obtain ⟨actions, hactions, ⟨index, hindex⟩, rfl⟩ := listActions_testId_eq_ok hlisted
  have hpair : (action, provider) ∈ repository.providers.flatMap fun provider =>
      provider.actions.map fun action => (action, provider) :=
    List.mem_flatMap.mpr
      ⟨provider, List.mem_of_mem_filter hprovider, List.mem_map_of_mem hreported⟩
  have hnpm : action.providerId = "npm" := by
    rw [indexActions_providerId hactions _ hpair, hreports.providerId_eq]
  have hmem : action ∈ actions :=
    (mem_allActions_iff hactions).mpr
      ⟨provider, List.mem_of_mem_filter hprovider, hreported,
        hnpm.trans hreports.providerId_eq.symm⟩
  apply eq_singleton_of_same_key RepositoryAction.id
  case hnodup => exact hnodup.sublist (List.filter_sublist.map _)
  case hmem =>
    simp [testActionsOf, hmem, hnpm, hof.kind_eq, hof.targetKind_eq, hof.targetId_eq, hid]
  case hsame =>
    intro other hother
    simp only [testActionsOf, List.mem_filter, mem_sortedBy, Bool.and_eq_true,
      decide_eq_true_eq] at hother
    obtain ⟨⟨hotherMem, -, htarget⟩, hotherNpm, hkind⟩ := hother
    have hotherOf := (testAction_of_listed hproviders hprovider hreports htest hid hindex
      hactions hotherMem hotherNpm hkind htarget).2
    rw [hotherOf.id_eq, hof.id_eq]

end Runnable

theorem exists_component_iff_liesIn {npm : NpmAttachment} {package : PackageJsonWorkspacePackage}
    {name : String} (hsupported : npm.workspace.Supported)
    (hcomponents : npm.componentAnalyses = .ok components)
    (hpackage : package ∈ npm.workspace.packages) (hname : package.manifest.name = some name) :
    (∃ component ∈ components, component.packageName = name) ↔
      npm.workspace.LiesIn PackageJsonWorkspace.componentSegments package := by
  have hanalyses := NpmAttachment.componentAnalyses_eq_ok hcomponents
  constructor
  · rintro ⟨component, hcomponent, hsame⟩
    obtain ⟨origin, horigin, hof⟩ := hanalyses.sound component hcomponent
    have hnames : origin.manifest.name = package.manifest.name := by
      rw [hof.name_eq, hname, hsame]
    have horiginEq := List.inj_on_of_nodup_map hsupported.names_nodup horigin hpackage hnames
    rw [← horiginEq]
    exact hof.located
  · exact NpmAttachment.exists_analysis_of_name hanalyses hpackage hname

theorem testActionForId_of_oneAction {repository : Repository} {providerId testId : String}
    (hlisted : repository.listActions ⟨.testId testId, []⟩ = .ok listed)
    (hone : testActionsOf providerId listed = [action]) :
    repository.testActionForId providerId testId = .ok action := by
  unfold testActionForId
  rw [hlisted, ok_bind, hone]
  rfl

/-- A discovered test can be run exactly when its package is no aggregator, in a
repository whose owners and actions can be listed. -/
theorem testRunnable_iff
    {repository : Repository} {provider : Provider} {npm : NpmAttachment}
    {package : PackageJsonWorkspacePackage} {name : String} {test : DiscoveredTestDefinition}
    (hproviders : repository.NpmProvidersReport)
    (hprovider : provider ∈ repository.providersForRole .test)
    (hreports : npm.ReportsTests provider)
    (hsupported : npm.workspace.Supported)
    (hpackage : package ∈ npm.workspace.packages)
    (hname : package.manifest.name = some name)
    (htest : test ∈ provider.discoveredTests)
    (hid : test.testDefinition.id = npmTestId name) :
    repository.TestRunnable provider test.testDefinition.id ↔
      npm.workspace.LiesIn PackageJsonWorkspace.componentSegments package ∧
        repository.ListsActions := by
  constructor
  · intro hrunnable
    obtain ⟨listed, hlisted, action, hone⟩ := hrunnable.oneAction
    rw [hreports.providerId_eq] at hone
    have hmem : action ∈ testActionsOf "npm" listed := by simp [hone]
    obtain ⟨components, hcomponents, hcomponent⟩ := exists_component_of_oneAction hproviders
      hprovider hreports htest hid hlisted hmem
    obtain ⟨actions, hactions, hindex, -⟩ := listActions_testId_eq_ok hlisted
    constructor
    · exact (exists_component_iff_liesIn hsupported hcomponents hpackage hname).mp hcomponent
    · exact ⟨hindex, actions, hactions⟩
  · rintro ⟨hlocated, hlists⟩
    obtain ⟨components, -, -, -, hcomponents, -⟩ := hreports.analyses
    have hcomponent :=
      (exists_component_iff_liesIn hsupported hcomponents hpackage hname).mpr hlocated
    obtain ⟨listed, hlisted, action, hone⟩ := oneAction_of_component hproviders hprovider
      hreports htest hid hlists ⟨components, hcomponents, hcomponent⟩
    rw [← hreports.providerId_eq] at hone
    constructor
    case oneAction => exact ⟨listed, hlisted, action, hone⟩
    case described =>
      obtain ⟨found, hfound⟩ := exists_leader
        (fun test : DiscoveredTestDefinition => test.testDefinition.id) htest
      have hdiscovered : discoveredTestById provider test.testDefinition.id = .ok found := by
        unfold discoveredTestById
        unfold leader? at hfound
        rw [hfound]
      unfold describeProviderTestTarget
      rw [hdiscovered, ok_bind, testActionForId_of_oneAction hlisted hone]
      exact ⟨_, rfl⟩

end Repository

/-- All tests which the providers of supported workspaces discover can be run. -/
def TestsRunnable : Prop :=
  ∀ (repository : Repository) (provider : Provider) (npm : NpmAttachment)
    (test : DiscoveredTestDefinition),
    repository.NpmProvidersReport →
      provider ∈ repository.providersForRole .test →
        npm.ReportsTests provider →
          npm.workspace.Supported →
            test ∈ provider.discoveredTests →
              repository.TestRunnable provider test.testDefinition.id

namespace TestSample

def package (directory name : String) : PackageJsonWorkspacePackage :=
  { packageDir := ["w", directory, name]
    manifest :=
      { path := ["w", directory, name, "package.json"]
        name := some name
        scripts := { entries := [("test", "node check.js")] } } }

def attachment : NpmAttachment :=
  { tree :=
      { entries :=
          [(["w"], .directory), (["w", "package.json"], .file),
            (["w", "packages"], .directory), (["w", "packages", "shop"], .directory),
            (["w", "packages", "shop", "package.json"], .file),
            (["w", "aggregators"], .directory), (["w", "aggregators", "all"], .directory),
            (["w", "aggregators", "all", "package.json"], .file)]
        linkLimit := 40 }
    workspace :=
      { repositoryRoot := ["w"]
        rootManifest := { path := ["w", "package.json"], name := some "root" }
        packages := [package "packages" "shop", package "aggregators" "all"] }
    rootRelPath := "." }

def manifestEntry (confidenceMode : ConfidenceMode) (summary path : String) :
    ProvenanceEntry :=
  ⟨confidenceMode, .manifest, none, summary, [path]⟩

def component : Component :=
  { id := "component:npm:shop"
    name := "shop"
    componentKind := .package
    language := .javascript
    sourceRoots := []
    artifactPaths := []
    provenance := [manifestEntry .authoritative "derived from npm workspace package metadata"
      "packages/shop/package.json"] }

def aggregator : Aggregator :=
  { id := "aggregator:npm:all"
    name := "all"
    provenance := [manifestEntry .derived
      "derived from npm workspace package metadata and aggregator classification"
      "aggregators/all/package.json"] }

def scriptEntry (directory name : String) : ProvenanceEntry :=
  manifestEntry .authoritative "derived from npm package script metadata"
    (directory ++ "/" ++ name ++ "/package.json")

def runner (directory name : String) : Runner :=
  { id := "runner:npm:" ++ name ++ ":test"
    name := name ++ ":test"
    argv := ["npm", "run", "test"]
    cwd := some (directory ++ "/" ++ name)
    provenance := [scriptEntry directory name] }

def globEntry (directory name : String) : ProvenanceEntry :=
  ⟨.heuristic, .heuristic, none,
    "derived from package manifest test script metadata and test file globs",
    [directory ++ "/" ++ name ++ "/package.json"]⟩

def test (directory name : String) : DiscoveredTestDefinition :=
  { testDefinition :=
      { id := "test:npm:" ++ name
        name := name ++ ":test"
        framework := .other
        testFiles := []
        provenance := [globEntry directory name] }
    provenance := [globEntry directory name] }

def runnerAction (directory name : String) (ownerIds : List String) : RepositoryAction :=
  { id := "action:npm:runner:" ++ name ++ ":test"
    name := "Run " ++ name ++ ":test"
    kind := .runnerExecution
    providerId := "npm"
    targetId := "runner:npm:" ++ name ++ ":test"
    targetKind := .runner
    ownerIds := ownerIds
    proofFacets := []
    invocation := ⟨["npm", "run", "test"], some (directory ++ "/" ++ name)⟩
    dryRunSupported := true
    provenance := [scriptEntry directory name] }

def testAction : RepositoryAction :=
  { id := "action:npm:test:shop"
    name := "Run tests for shop"
    kind := .testExecution
    providerId := "npm"
    targetId := "test:npm:shop"
    targetKind := .testDefinition
    ownerIds := ["component:npm:shop", "test:npm:shop"]
    proofFacets := []
    invocation := ⟨["npm", "run", "test"], some "packages/shop"⟩
    dryRunSupported := true
    provenance := [⟨.heuristic, .heuristic, none,
      "derived from heuristic npm test discovery and npm `test` script",
      ["packages/shop/package.json"]⟩] }

def provider : Provider :=
  { providerId := "npm"
    components := [component]
    aggregators := [aggregator]
    runners := [runner "aggregators" "all", runner "packages" "shop"]
    discoveredTests := [test "aggregators" "all", test "packages" "shop"]
    actions :=
      [runnerAction "aggregators" "all" ["runner:npm:all:test"],
        runnerAction "packages" "shop" ["component:npm:shop", "runner:npm:shop:test"],
        testAction] }

def repository : Repository := ⟨"/w", [provider], fun _ => [.architecture, .test]⟩

theorem reports : attachment.ReportsTests provider := by
  constructor
  case providerId_eq => rfl
  case tests_eq => decide +kernel
  case actions_eq => decide +kernel

theorem allReport : repository.NpmProvidersReport := by
  intro other hother hid
  have hsame : other = provider := List.mem_singleton.mp hother
  rw [hsame]
  exact ⟨attachment, reports⟩

theorem provider_mem : provider ∈ repository.providersForRole .test :=
  List.mem_filter.mpr ⟨List.mem_singleton_self _, by decide⟩

theorem supported : attachment.workspace.Supported := by
  constructor
  case named =>
    intro package hpackage
    cases List.mem_cons.mp hpackage with
    | inl hshop => exact ⟨"shop", by rw [hshop]; rfl⟩
    | inr hrest => exact ⟨"all", by rw [List.mem_singleton.mp hrest]; rfl⟩
  case names_nodup => decide
  case located =>
    intro package hpackage
    cases List.mem_cons.mp hpackage with
    | inl hshop => exact ⟨"packages/shop", by rw [hshop]; decide +kernel, by decide +kernel⟩
    | inr hrest =>
        rw [List.mem_singleton.mp hrest]
        exact ⟨"aggregators/all", by decide +kernel, by decide +kernel⟩

end TestSample

theorem testRunnable_iff_inPackages :
    TestSample.repository.TestRunnable TestSample.provider "test:npm:shop" ↔
      TestSample.attachment.workspace.LiesIn PackageJsonWorkspace.componentSegments
          (TestSample.package "packages" "shop") ∧
        TestSample.repository.ListsActions := by
  have htest : TestSample.test "packages" "shop" ∈ TestSample.provider.discoveredTests :=
    List.mem_cons_of_mem _ List.mem_cons_self
  exact Repository.testRunnable_iff TestSample.allReport TestSample.provider_mem
    TestSample.reports TestSample.supported List.mem_cons_self rfl htest rfl

/-- The test of an aggregator has no action. -/
theorem tests_not_all_runnable : ¬ TestsRunnable := by
  intro hall
  have htest : TestSample.test "aggregators" "all" ∈ TestSample.provider.discoveredTests :=
    List.mem_cons_self
  have hrunnable := hall TestSample.repository TestSample.provider TestSample.attachment _
    TestSample.allReport TestSample.provider_mem TestSample.reports TestSample.supported htest
  obtain ⟨listed, hlisted, action, hone⟩ := hrunnable.oneAction
  obtain ⟨actions, hactions, -, rfl⟩ := Repository.listActions_testId_eq_ok hlisted
  have hmem : action ∈ Repository.testActionsOf TestSample.provider.providerId _ :=
    hone ▸ List.mem_singleton_self action
  simp only [Repository.testActionsOf, List.mem_filter, mem_sortedBy, Bool.and_eq_true,
    decide_eq_true_eq] at hmem
  obtain ⟨other, hother, hreported, -⟩ :=
    (Repository.mem_allActions_iff hactions).mp hmem.1.1
  have hprovider : other = TestSample.provider := List.mem_singleton.mp hother
  rw [hprovider] at hreported
  have hnone : ∀ reported ∈ TestSample.provider.actions,
      reported.targetId ≠ (TestSample.test "aggregators" "all").testDefinition.id := by
    decide
  exact hnone action hreported hmem.1.2.2

end SuitCode
