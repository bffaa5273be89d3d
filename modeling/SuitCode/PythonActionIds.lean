import SuitCode.TestActions

/-!
# Action ids of Python attachments

The ids of the actions of an attachment are built from the names of its entry points, which
carry the attachment root, from the names of its test suites, which do not, and from one
fixed text for the build.  The actions of two attachments are told apart by their ids only
where no suite and no build is found in both.
-/

namespace SuitCode

open PosixText KeyedList ExceptList

variable {action : RepositoryAction} {provider : Provider}

namespace PythonAttachment

/-! ## The ids of one attachment -/

def entryPoints (python : PythonAttachment) : List String :=
  match python.manifest.project with
  | none => []
  | some project =>
      (scriptMap project).map fun script => rebasePythonScript python.rootRelPath script.1

def hasPytest (python : PythonAttachment) : Bool :=
  match hasPytestSignal python.tree python.root python.tools python.manifest with
  | .ok signal => signal
  | .error _ => false

def hasUnittest (python : PythonAttachment) : Bool :=
  match unittestRoot python.tree python.root python.tools with
  | .ok found => found.isSome
  | .error _ => false

def suites (python : PythonAttachment) : List String :=
  (if python.hasPytest then ["pytest"] else []) ++
    if python.hasUnittest then ["unittest"] else []

def actionIds (python : PythonAttachment) : List String :=
  (python.entryPoints.map fun name => "action:python:runner:" ++ name) ++
    (python.suites.map fun name => "action:python:test:" ++ name) ++
      if python.manifest.hasBuildSystem then ["action:python:build:repository"] else []

/-- Nothing gives an action of the same id in both attachments. -/
structure Apart (left right : PythonAttachment) : Prop where
  builds : ¬ (left.manifest.hasBuildSystem = true ∧ right.manifest.hasBuildSystem = true)
  pytest : ¬ (left.hasPytest = true ∧ right.hasPytest = true)
  unittest : ¬ (left.hasUnittest = true ∧ right.hasUnittest = true)
  entryPoints : left.entryPoints.Disjoint right.entryPoints

theorem mem_suites_iff {python : PythonAttachment} {name : String} :
    name ∈ python.suites ↔
      name = "pytest" ∧ python.hasPytest = true ∨
        name = "unittest" ∧ python.hasUnittest = true := by
  unfold suites
  cases python.hasPytest <;> cases python.hasUnittest <;> simp

theorem nodup_suites (python : PythonAttachment) : python.suites.Nodup := by
  unfold suites
  cases python.hasPytest <;> cases python.hasUnittest <;> simp

theorem mem_actionIds_iff {python : PythonAttachment} {actionId : String} :
    actionId ∈ python.actionIds ↔
      (∃ name ∈ python.entryPoints, "action:python:runner:" ++ name = actionId) ∨
        (∃ name ∈ python.suites, "action:python:test:" ++ name = actionId) ∨
          python.manifest.hasBuildSystem = true ∧
            actionId = "action:python:build:repository" := by
  unfold actionIds
  cases python.manifest.hasBuildSystem <;> simp

theorem rebasePythonScript_injective (rootRelPath : String) :
    Function.Injective (rebasePythonScript rootRelPath) := by
  intro left right heq
  unfold rebasePythonScript at heq
  split at heq
  · exact heq
  · simpa using heq

theorem nodup_scriptMap (project : PyProjectProject) :
    ((scriptMap project).map Prod.fst).Nodup := by
  have hperm := (sortedBy_perm Prod.fst (project.guiScripts.entries ++
    project.scripts.entries.filter fun entry => entry.1 ∉ project.guiScripts.names)).map Prod.fst
  unfold scriptMap
  rw [hperm.nodup_iff, List.map_append, List.nodup_append']
  constructor
  · exact project.guiScripts.names_nodup
  · constructor
    · exact project.scripts.names_nodup.sublist (List.filter_sublist.map Prod.fst)
    · intro name hgui hscript
      simp only [List.mem_map, List.mem_filter, decide_eq_true_eq] at hscript
      rcases hscript with ⟨entry, ⟨-, hother⟩, heq⟩
      apply hother
      rw [heq]
      exact hgui

theorem nodup_entryPoints (python : PythonAttachment) : python.entryPoints.Nodup := by
  unfold entryPoints
  cases python.manifest.project with
  | none => simp
  | some project =>
      have hnames := (nodup_scriptMap project).map
        (rebasePythonScript_injective python.rootRelPath)
      rwa [List.map_map] at hnames

theorem nodup_actionIds (python : PythonAttachment) : python.actionIds.Nodup := by
  unfold actionIds
  rw [List.nodup_append', List.nodup_append']
  constructor
  · constructor
    · exact python.nodup_entryPoints.map fun left right heq => by simpa using heq
    · constructor
      · exact python.nodup_suites.map fun left right heq => by simpa using heq
      · intro actionId hrunner htest
        simp only [List.mem_map] at hrunner htest
        rcases hrunner with ⟨name, -, rfl⟩
        rcases htest with ⟨suite, -, heq⟩
        simpa using congrArg String.toList heq
  · constructor
    · cases python.manifest.hasBuildSystem <;> simp
    · intro actionId hnamed hbuild
      cases hsystem : python.manifest.hasBuildSystem with
      | false => simp [hsystem] at hbuild
      | true =>
          simp only [hsystem, if_true, List.mem_singleton] at hbuild
          subst hbuild
          simp only [List.mem_append, List.mem_map] at hnamed
          cases hnamed with
          | inl hrunner =>
              rcases hrunner with ⟨name, -, heq⟩
              simpa using congrArg String.toList heq
          | inr htest =>
              rcases htest with ⟨suite, -, heq⟩
              simpa using congrArg String.toList heq

theorem disjoint_actionIds_iff {left right : PythonAttachment} :
    left.actionIds.Disjoint right.actionIds ↔ Apart left right := by
  constructor
  · intro hdisjoint
    constructor
    case builds =>
      rintro ⟨hleft, hright⟩
      exact hdisjoint (mem_actionIds_iff.mpr (Or.inr (Or.inr ⟨hleft, rfl⟩)))
        (mem_actionIds_iff.mpr (Or.inr (Or.inr ⟨hright, rfl⟩)))
    case pytest =>
      rintro ⟨hleft, hright⟩
      have hin : ∀ python : PythonAttachment, python.hasPytest = true →
          "action:python:test:pytest" ∈ python.actionIds := by
        intro python hsuite
        apply mem_actionIds_iff.mpr
        exact Or.inr (Or.inl ⟨"pytest", mem_suites_iff.mpr (Or.inl ⟨rfl, hsuite⟩), rfl⟩)
      exact hdisjoint (hin left hleft) (hin right hright)
    case unittest =>
      rintro ⟨hleft, hright⟩
      have hin : ∀ python : PythonAttachment, python.hasUnittest = true →
          "action:python:test:unittest" ∈ python.actionIds := by
        intro python hsuite
        apply mem_actionIds_iff.mpr
        exact Or.inr (Or.inl ⟨"unittest", mem_suites_iff.mpr (Or.inr ⟨rfl, hsuite⟩), rfl⟩)
      exact hdisjoint (hin left hleft) (hin right hright)
    case entryPoints =>
      intro name hleft hright
      exact hdisjoint (mem_actionIds_iff.mpr (Or.inl ⟨name, hleft, rfl⟩))
        (mem_actionIds_iff.mpr (Or.inl ⟨name, hright, rfl⟩))
  · intro hapart actionId hleft hright
    rw [mem_actionIds_iff] at hleft hright
    rcases hleft with ⟨name, hname, rfl⟩ | ⟨name, hname, rfl⟩ | ⟨hsystem, rfl⟩
    case inl =>
      rcases hright with ⟨other, hother, heq⟩ | ⟨other, hother, heq⟩ | ⟨hother, heq⟩
      case inl =>
        have hsame : other = name := by simpa using heq
        subst hsame
        exact hapart.entryPoints hname hother
      case inr.inl => simpa using congrArg String.toList heq
      case inr.inr => simpa using congrArg String.toList heq
    case inr.inl =>
      rcases hright with ⟨other, hother, heq⟩ | ⟨other, hother, heq⟩ | ⟨hother, heq⟩
      case inl => simpa using congrArg String.toList heq
      case inr.inl =>
        have hsame : other = name := by simpa using heq
        subst hsame
        rw [mem_suites_iff] at hname hother
        cases hname with
        | inl hpytest =>
            cases hother with
            | inl hother => exact hapart.pytest ⟨hpytest.2, hother.2⟩
            | inr hother => simpa using hpytest.1.symm.trans hother.1
        | inr hunittest =>
            cases hother with
            | inl hother => simpa using hunittest.1.symm.trans hother.1
            | inr hother => exact hapart.unittest ⟨hunittest.2, hother.2⟩
      case inr.inr => simpa using congrArg String.toList heq
    case inr.inr =>
      rcases hright with ⟨other, hother, heq⟩ | ⟨other, hother, heq⟩ | ⟨hother, heq⟩
      case inl => simpa using congrArg String.toList heq
      case inr.inl => simpa using congrArg String.toList heq
      case inr.inr => exact hapart.builds ⟨hsystem, hother⟩

/-! ## What the provider reports -/

theorem runnerAnalyses_names
    {python : PythonAttachment} {runners : List PythonRunnerAnalysis}
    (hok : python.runnerAnalyses = .ok runners) :
    runners.map PythonRunnerAnalysis.scriptName = python.entryPoints := by
  simp only [runnerAnalyses, bind_eq_ok, pure_eq_ok] at hok
  rcases hok with ⟨analyses, hanalyses, rfl⟩
  unfold analyzePythonRunners at hanalyses
  unfold entryPoints
  rw [List.map_map]
  cases hproject : python.manifest.project with
  | none =>
      simp only [hproject, Except.ok.injEq] at hanalyses
      subst hanalyses
      rfl
  | some project =>
      simp only [hproject] at hanalyses
      apply map_outputs_eq _ _ hanalyses
      intro script hscript analysis hstep
      rcases bind_eq_ok.mp hstep with ⟨files, -, hanalysis⟩
      rw [← pure_eq_ok.mp hanalysis]
      rfl

structure IsSuite (test : PythonTestAnalysis) : Prop where
  named : test.name = "pytest" ∨ test.name = "unittest"
  testId_eq : ∃ rest, test.testId = "test:python:" ++ test.name ++ ":root" ++ rest

theorem IsSuite.name_eq {test other : PythonTestAnalysis} (htest : IsSuite test)
    (hother : IsSuite other) (heq : other.testId = test.testId) : other.name = test.name := by
  rcases htest.testId_eq with ⟨rest, hid⟩
  rcases hother.testId_eq with ⟨otherRest, hotherId⟩
  rw [hid, hotherId] at heq
  cases htest.named with
  | inl hpytest =>
      cases hother.named with
      | inl hsame => rw [hpytest, hsame]
      | inr hunittest =>
          rw [hpytest, hunittest] at heq
          simpa using congrArg String.toList heq
  | inr hunittest =>
      cases hother.named with
      | inl hpytest =>
          rw [hpytest, hunittest] at heq
          simpa using congrArg String.toList heq
      | inr hsame => rw [hunittest, hsame]

theorem discoverPytest_names
    {python : PythonAttachment} {found : Option PythonTestAnalysis}
    (hok : discoverPytest python.tree python.root python.tools python.manifest = .ok found) :
    (found.toList.map PythonTestAnalysis.name =
        if python.hasPytest then ["pytest"] else []) ∧
      ∀ test ∈ found.toList, IsSuite test := by
  unfold discoverPytest at hok
  rcases bind_eq_ok.mp hok with ⟨signal, hsignal, hok⟩
  have hhas : python.hasPytest = signal := by
    simp [hasPytest, hsignal]
  rw [hhas]
  cases signal with
  | false =>
      simp only [Bool.not_false, if_true, pure_eq_ok] at hok
      subst hok
      simp
  | true =>
      simp only [Bool.not_true, Bool.false_eq_true, if_false] at hok
      have hsuite : ∃ test, some test = found ∧ test.name = "pytest" ∧ IsSuite test := by
        cases htool : python.tools.pytest with
        | none =>
            simp only [htool, bind_eq_ok, pure_eq_ok] at hok
            rcases hok with ⟨files, -, value, -, heq⟩
            exact ⟨_, heq, rfl, Or.inl rfl, "", by simp⟩
        | some listing =>
            simp only [htool, bind_eq_ok, pure_eq_ok] at hok
            rcases hok with ⟨files, -, value, -, heq⟩
            exact ⟨_, heq, rfl, Or.inl rfl, "", by simp⟩
      rcases hsuite with ⟨test, rfl, hname, hsuite⟩
      simp [hname, hsuite]

theorem discoverUnittest_names
    {python : PythonAttachment} {found : Option PythonTestAnalysis}
    (hok : discoverUnittest python.tree python.root python.tools = .ok found) :
    (found.toList.map PythonTestAnalysis.name =
        if python.hasUnittest then ["unittest"] else []) ∧
      ∀ test ∈ found.toList, IsSuite test := by
  unfold discoverUnittest at hok
  rcases bind_eq_ok.mp hok with ⟨directory, hdirectory, hok⟩
  have hhas : python.hasUnittest = directory.isSome := by
    simp [hasUnittest, hdirectory]
  rw [hhas]
  cases directory with
  | none =>
      simp only [pure_eq_ok] at hok
      subst hok
      simp
  | some name =>
      simp only [bind_eq_ok, pure_eq_ok] at hok
      rcases hok with ⟨files, -, rfl⟩
      constructor
      · rfl
      · intro test htest
        have heq := List.mem_singleton.mp htest
        rw [heq]
        exact ⟨Or.inr rfl, "", by simp⟩

theorem rebasePythonTest_isSuite (rootRelPath : String) {test : PythonTestAnalysis}
    (htest : IsSuite test) : IsSuite (rebasePythonTest rootRelPath test) := by
  rcases htest.testId_eq with ⟨rest, hid⟩
  constructor
  case named => exact htest.named
  case testId_eq =>
    by_cases hroot : isRepositoryRoot rootRelPath = true
    · use rest
      simp [rebasePythonTest, hroot, hid]
    · use rest ++ (":" ++ rootRelPath)
      simp [rebasePythonTest, hroot, hid, String.append_assoc]

theorem testAnalyses_names
    {python : PythonAttachment} {tests : List PythonTestAnalysis}
    (hok : python.testAnalyses = .ok tests) :
    (tests.map PythonTestAnalysis.name).Perm python.suites ∧
      ∀ test ∈ tests, IsSuite test := by
  simp only [testAnalyses, discoverPythonTests, bind_eq_ok, pure_eq_ok] at hok
  rcases hok with ⟨analyses, ⟨pytest, hpytest, unittest, hunittest, rfl⟩, rfl⟩
  have hfirst := discoverPytest_names hpytest
  have hsecond := discoverUnittest_names hunittest
  constructor
  · rw [List.map_map]
    have hperm := (sortedBy_perm PythonTestAnalysis.testId
      (pytest.toList ++ unittest.toList)).map PythonTestAnalysis.name
    rw [List.map_append, hfirst.1, hsecond.1] at hperm
    exact hperm
  · intro test htest
    rcases List.mem_map.mp htest with ⟨analysis, hanalysis, rfl⟩
    apply rebasePythonTest_isSuite
    rw [mem_sortedBy, List.mem_append] at hanalysis
    cases hanalysis with
    | inl hmem => exact hfirst.2 analysis hmem
    | inr hmem => exact hsecond.2 analysis hmem

inductive SpecOf (components : List PythonPackageComponentAnalysis)
    (runners : List PythonRunnerAnalysis) (tests : List PythonTestAnalysis) :
    ProviderActionSpec → Prop where
  | runner {runner} (hrunner : runner ∈ runners) :
      SpecOf components runners tests (pythonRunnerAction components runner)
  | test {test} (htest : test ∈ tests) :
      SpecOf components runners tests (pythonTestAction components test)
  | build : SpecOf components runners tests (pythonBuildAction components)

theorem finalizeActions_perm {providerName : String} {actions result : List ProviderActionSpec}
    (hok : finalizeActions providerName actions = .ok result) : result.Perm actions := by
  unfold finalizeActions at hok
  split at hok
  · cases hok
  · rw [Except.ok.injEq] at hok
    rw [← hok]
    exact sortedBy_perm _ _

theorem specIds_perm
    {python : PythonAttachment} {runners : List PythonRunnerAnalysis}
    {tests : List PythonTestAnalysis} (components : List PythonPackageComponentAnalysis)
    (hrunners : python.runnerAnalyses = .ok runners) (htests : python.testAnalyses = .ok tests) :
    ((runners.map (pythonRunnerAction components) ++
      tests.map (pythonTestAction components) ++
        if python.manifest.hasBuildSystem then [pythonBuildAction components] else []).map
          ProviderActionSpec.actionId).Perm python.actionIds := by
  have hsuites := (testAnalyses_names htests).1.map fun name => "action:python:test:" ++ name
  rw [List.map_map] at hsuites
  unfold actionIds
  rw [← runnerAnalyses_names hrunners, List.map_append, List.map_append, List.map_map,
    List.map_map, List.map_map]
  apply List.Perm.append
  · exact List.Perm.append_left _ hsuites
  · cases python.manifest.hasBuildSystem <;> exact List.Perm.refl _

structure Actions (python : PythonAttachment) (actions : List RepositoryAction)
    (components : List PythonPackageComponentAnalysis) (runners : List PythonRunnerAnalysis)
    (tests : List PythonTestAnalysis) (specs : List ProviderActionSpec) : Prop where
  runners_eq : python.runnerAnalyses = .ok runners
  tests_eq : python.testAnalyses = .ok tests
  specs_eq :
    discoverPythonActions components runners tests python.manifest.hasBuildSystem = .ok specs
  actions_eq :
    ProviderActionTranslator.repositoryActions ⟨"python", "pytest"⟩ specs = .ok actions

theorem getActions_eq_ok {python : PythonAttachment} {actions : List RepositoryAction}
    (hok : python.getActions = .ok actions) :
    ∃ components runners tests specs,
      python.Actions actions components runners tests specs := by
  simp only [getActions, actionSpecs, bind_eq_ok] at hok
  rcases hok with ⟨specs, ⟨components, -, runners, hrunners, tests, htests, hspecs⟩, hactions⟩
  exact ⟨components, runners, tests, specs, hrunners, htests, hspecs, hactions⟩

section Reported

variable {python : PythonAttachment} {actions : List RepositoryAction}
  {components : List PythonPackageComponentAnalysis} {runners : List PythonRunnerAnalysis}
  {tests : List PythonTestAnalysis} {specs : List ProviderActionSpec}
  (hactions : python.Actions actions components runners tests specs)
include hactions

theorem Actions.ids_perm : (actions.map RepositoryAction.id).Perm python.actionIds := by
  have htranslated := hactions.actions_eq
  simp only [ProviderActionTranslator.repositoryActions, bind_eq_ok, pure_eq_ok] at htranslated
  rcases htranslated with ⟨translated, htranslated, rfl⟩
  have hids : translated.map RepositoryAction.id = specs.map ProviderActionSpec.actionId := by
    apply map_outputs_eq _ _ htranslated
    intro spec hspec action hstep
    exact (ProviderActionTranslator.toRepositoryAction_eq_ok hstep).id_eq
  have hspecs := (finalizeActions_perm hactions.specs_eq).map ProviderActionSpec.actionId
  apply ((sortedBy_perm RepositoryAction.id translated).map RepositoryAction.id).trans
  rw [hids]
  exact hspecs.trans (specIds_perm components hactions.runners_eq hactions.tests_eq)

theorem Actions.spec_of_action (haction : action ∈ actions) :
    ∃ spec, SpecOf components runners tests spec ∧
      ProviderActionTranslator.ActionOf ⟨"python", "pytest"⟩ spec action := by
  rcases ProviderActionTranslator.exists_spec_of_action hactions.actions_eq haction with
    ⟨spec, hspec, hof⟩
  have hmem := (finalizeActions_perm hactions.specs_eq).mem_iff.mp hspec
  refine ⟨spec, ?_, hof⟩
  rw [List.mem_append, List.mem_append] at hmem
  rcases hmem with (hrunner | htest) | hbuild
  case inl.inl =>
    rcases List.mem_map.mp hrunner with ⟨runner, hanalysis, rfl⟩
    exact SpecOf.runner hanalysis
  case inl.inr =>
    rcases List.mem_map.mp htest with ⟨test, hanalysis, rfl⟩
    exact SpecOf.test hanalysis
  case inr =>
    cases hsystem : python.manifest.hasBuildSystem with
    | false => simp [hsystem] at hbuild
    | true =>
        simp only [hsystem, if_true, List.mem_singleton] at hbuild
        rw [hbuild]
        exact SpecOf.build

theorem Actions.providerId_eq (haction : action ∈ actions) :
    action.providerId = "python" := by
  have htranslated := hactions.actions_eq
  simp only [ProviderActionTranslator.repositoryActions, bind_eq_ok, pure_eq_ok] at htranslated
  rcases htranslated with ⟨translated, htranslated, rfl⟩
  rcases exists_input_of_mem htranslated (mem_sortedBy.mp haction) with ⟨spec, -, hstep⟩
  simp only [ProviderActionTranslator.toRepositoryAction, bind_eq_ok, validated_eq_ok] at hstep
  rcases hstep with ⟨invocation, -, entry, -, rfl, -⟩
  rfl

theorem Actions.exists_testAction {test : PythonTestAnalysis} (htest : test ∈ tests) :
    ∃ action ∈ actions, ProviderActionTranslator.ActionOf ⟨"python", "pytest"⟩
      (pythonTestAction components test) action := by
  apply ProviderActionTranslator.exists_action_of_spec hactions.actions_eq
  apply (finalizeActions_perm hactions.specs_eq).mem_iff.mpr
  apply List.mem_append_left
  exact List.mem_append_right _ (List.mem_map_of_mem htest)

theorem Actions.test_of_action (haction : action ∈ actions) (hkind : action.kind = .testExecution) :
    ∃ test ∈ tests, ProviderActionTranslator.ActionOf ⟨"python", "pytest"⟩
      (pythonTestAction components test) action := by
  rcases hactions.spec_of_action haction with ⟨spec, hspec, hof⟩
  cases hspec with
  | runner hrunner =>
      have hrunnerKind := hof.kind_eq
      rw [hkind] at hrunnerKind
      cases hrunnerKind
  | test htest => exact ⟨_, htest, hof⟩
  | build =>
      have hbuildKind := hof.kind_eq
      rw [hkind] at hbuildKind
      cases hbuildKind

end Reported

end PythonAttachment

/-- The provider answers what its attachment answers of tests and actions. -/
structure PythonAttachment.Answers (python : PythonAttachment) (provider : Provider) :
    Prop where
  tests_eq : python.getDiscoveredTests = .ok provider.discoveredTests
  actions_eq : python.getActions = .ok provider.actions

namespace Repository

/-! ## The actions of the repository -/

/-- The other providers list their own actions, whose ids name no provider but theirs. -/
structure OthersListed (repository : Repository) (providerId : String) : Prop where
  named :
    ∀ provider ∈ repository.providers, provider.providerId ≠ providerId →
      ∀ action ∈ provider.actions, action.providerId = provider.providerId
  tagged :
    ∀ provider ∈ repository.providers, provider.providerId ≠ providerId →
      ∀ action ∈ provider.actions,
        startsWith action.id ("action:" ++ providerId ++ ":") = false
  distinct :
    (((repository.providers.filter fun provider => provider.providerId ≠ providerId).flatMap
      Provider.actions).map RepositoryAction.id).Nodup

/-- The actions of all Python providers have distinct ids, the repository lists its
actions, and a test has one action among those listed for it. -/
structure PythonActionsUnique (repository : Repository) : Prop where
  distinct :
    (((repository.providersById "python").flatMap Provider.actions).map
      RepositoryAction.id).Nodup
  listed : ∃ actions, repository.allActions = .ok actions
  oneAction :
    ∀ provider ∈ repository.providersById "python", ∀ test ∈ provider.discoveredTests,
      ∀ found, repository.listActions ⟨.testId test.testDefinition.id, []⟩ = .ok found →
        ∃ action, testActionsOf "python" found = [action]

theorem indexActions_eq_ok
    {seen : List String} {pairs : List (RepositoryAction × Provider)}
    (hnamed : ∀ pair ∈ pairs, pair.1.providerId = pair.2.providerId)
    (hnodup : (pairs.map fun pair => pair.1.id).Nodup)
    (hfresh : ∀ pair ∈ pairs, pair.1.id ∉ seen) :
    indexActions seen pairs = .ok (pairs.map Prod.fst) := by
  induction pairs generalizing seen with
  | nil => rfl
  | cons pair pairs ih =>
      rw [List.map_cons, List.nodup_cons] at hnodup
      have hprovider : ¬ pair.1.providerId ≠ pair.2.providerId :=
        not_not.mpr (hnamed pair List.mem_cons_self)
      have hlater : ∀ other ∈ pairs, other.1.id ∉ pair.1.id :: seen := by
        intro other hother hmem
        rw [List.mem_cons] at hmem
        cases hmem with
        | inl heq =>
            apply hnodup.1
            rw [← heq]
            exact List.mem_map_of_mem hother
        | inr hseen => exact hfresh other (List.mem_cons_of_mem _ hother) hseen
      have hrest := ih (fun other hother => hnamed other (List.mem_cons_of_mem _ hother))
        hnodup.2 hlater
      unfold indexActions
      rw [if_neg hprovider, if_neg (hfresh pair List.mem_cons_self), hrest]
      rfl

section Answers

variable {repository : Repository} {pythons : List PythonAttachment}
  (hanswers : List.Forall₂ PythonAttachment.Answers pythons
    (repository.providersById "python"))
include hanswers

theorem exists_attachment (hprovider : provider ∈ repository.providersById "python") :
    ∃ python ∈ pythons, python.Answers provider := by
  generalize repository.providersById "python" = providers at hanswers hprovider
  induction hanswers with
  | nil => cases hprovider
  | cons hhead htail ih =>
      rw [List.mem_cons] at hprovider
      cases hprovider with
      | inl heq =>
          rw [heq]
          exact ⟨_, List.mem_cons_self, hhead⟩
      | inr hmem =>
          rcases ih hmem with ⟨python, hpython, hof⟩
          exact ⟨python, List.mem_cons_of_mem _ hpython, hof⟩

theorem pythonIds_perm :
    (((repository.providersById "python").flatMap Provider.actions).map
      RepositoryAction.id).Perm (pythons.flatMap PythonAttachment.actionIds) := by
  generalize repository.providersById "python" = providers at hanswers
  induction hanswers with
  | nil => exact List.Perm.refl _
  | cons hhead htail ih =>
      rcases PythonAttachment.getActions_eq_ok hhead.actions_eq with
        ⟨components, runners, tests, specs, hactions⟩
      rw [List.flatMap_cons, List.flatMap_cons, List.map_append]
      exact hactions.ids_perm.append ih

theorem pythonIds_nodup_iff :
    (((repository.providersById "python").flatMap Provider.actions).map
      RepositoryAction.id).Nodup ↔ pythons.Pairwise PythonAttachment.Apart := by
  rw [(pythonIds_perm hanswers).nodup_iff, List.nodup_flatMap]
  constructor
  · rintro ⟨-, hpairwise⟩
    exact hpairwise.imp PythonAttachment.disjoint_actionIds_iff.mp
  · intro hpairwise
    constructor
    · intro python hpython
      exact python.nodup_actionIds
    · exact hpairwise.imp PythonAttachment.disjoint_actionIds_iff.mpr

theorem answered_action (hprovider : provider ∈ repository.providersById "python")
    (haction : action ∈ provider.actions) :
    action.providerId = "python" ∧ startsWith action.id "action:python:" = true := by
  rcases exists_attachment hanswers hprovider with ⟨python, -, hof⟩
  rcases PythonAttachment.getActions_eq_ok hof.actions_eq with
    ⟨components, runners, tests, specs, hactions⟩
  constructor
  · exact hactions.providerId_eq haction
  · have hmem := hactions.ids_perm.mem_iff.mp (List.mem_map_of_mem haction)
    rw [PythonAttachment.mem_actionIds_iff] at hmem
    rcases hmem with ⟨name, -, heq⟩ | ⟨name, -, heq⟩ | ⟨-, heq⟩
    case inl => simp [← heq, startsWith]
    case inr.inl => simp [← heq, startsWith]
    case inr.inr =>
      rw [heq]
      decide

theorem exists_allActions_of_nodup
    (hothers : repository.OthersListed "python")
    (hnodup : (((repository.providersById "python").flatMap Provider.actions).map
      RepositoryAction.id).Nodup) :
    ∃ actions, repository.allActions = .ok actions := by
  have hpython : ∀ provider ∈ repository.providers, provider.providerId = "python" →
      provider ∈ repository.providersById "python" := by
    intro provider hprovider hid
    simp [providersById, hprovider, hid]
  have hsplit := List.filter_append_perm (fun provider => provider.providerId = "python")
    repository.providers
  have hids := (hsplit.flatMap_right Provider.actions).map RepositoryAction.id
  rw [List.flatMap_append, List.map_append] at hids
  have hall : ((repository.providers.flatMap Provider.actions).map RepositoryAction.id).Nodup := by
    rw [← hids.nodup_iff, List.nodup_append']
    refine ⟨hnodup, ?_, ?_⟩
    · have hdistinct := hothers.distinct
      simpa using hdistinct
    · intro actionId hown hother
      simp only [List.mem_map, List.mem_flatMap, List.mem_filter, decide_eq_true_eq,
        Bool.not_eq_true', decide_eq_false_iff_not] at hown hother
      rcases hown with ⟨action, ⟨provider, ⟨hprovider, hid⟩, haction⟩, rfl⟩
      rcases hother with ⟨other, ⟨otherProvider, ⟨hotherProvider, hne⟩, hother⟩, heq⟩
      have htagged := (answered_action hanswers (hpython provider hprovider hid) haction).2
      have huntagged := hothers.tagged otherProvider hotherProvider hne other hother
      rw [heq] at huntagged
      exact Bool.false_ne_true (huntagged.symm.trans htagged)
  refine ⟨_, indexActions_eq_ok ?_ ?_ fun _ _ => List.not_mem_nil⟩
  · intro pair hpair
    simp only [List.mem_flatMap, List.mem_map] at hpair
    rcases hpair with ⟨provider, hprovider, action, haction, rfl⟩
    by_cases hid : provider.providerId = "python"
    · rw [(answered_action hanswers (hpython provider hprovider hid) haction).1]
      exact hid.symm
    · exact hothers.named provider hprovider hid action haction
  · rw [List.map_flatMap] at hall ⊢
    simpa [Function.comp_def] using hall

theorem oneAction_of_nodup {test : DiscoveredTestDefinition} {found : List RepositoryAction}
    (hprovider : provider ∈ repository.providersById "python")
    (htest : test ∈ provider.discoveredTests)
    (hfound : repository.listActions ⟨.testId test.testDefinition.id, []⟩ = .ok found) :
    ∃ action, testActionsOf "python" found = [action] := by
  rcases exists_attachment hanswers hprovider with ⟨python, -, hof⟩
  rcases PythonAttachment.getActions_eq_ok hof.actions_eq with
    ⟨components, runners, tests, specs, hactions⟩
  have hdiscovered := hof.tests_eq
  simp only [PythonAttachment.getDiscoveredTests, hactions.tests_eq, ok_bind, bind_eq_ok,
    pure_eq_ok] at hdiscovered
  rcases hdiscovered with ⟨definitions, hdefinitions, heq⟩
  rw [← heq, mem_sortedBy] at htest
  rcases exists_input_of_mem hdefinitions htest with ⟨analysis, hanalysis, hstep⟩
  have hid : test.testDefinition.id = analysis.testId := by
    rcases bind_eq_ok.mp hstep with ⟨entry, -, hentry⟩
    rw [← pure_eq_ok.mp hentry]
  rcases hactions.exists_testAction hanalysis with ⟨action, haction, hspec⟩
  have hsuite := (PythonAttachment.testAnalyses_names hactions.tests_eq).2 analysis hanalysis
  have hnodup := (listActions_facts hfound).nodup
  rcases listActions_testId_eq_ok hfound with ⟨actions, hall, -, rfl⟩
  use action
  apply eq_singleton_of_same_key RepositoryAction.id
  case hnodup => exact hnodup.sublist (List.filter_sublist.map _)
  case hmem =>
    have hin : action ∈ actions := by
      apply (mem_allActions_iff hall).mpr
      have hmem := List.mem_filter.mp hprovider
      refine ⟨provider, hmem.1, haction, ?_⟩
      rw [hactions.providerId_eq haction]
      exact (of_decide_eq_true hmem.2).symm
    have htarget : action.targetId = test.testDefinition.id := hspec.targetId_eq.trans hid.symm
    have hkind : action.kind = .testExecution := hspec.kind_eq
    have htargetKind : action.targetKind = .testDefinition := hspec.targetKind_eq
    simp only [testActionsOf, List.mem_filter, mem_sortedBy, Bool.and_eq_true,
      decide_eq_true_eq]
    exact ⟨⟨hin, htargetKind, htarget⟩, hactions.providerId_eq haction, hkind⟩
  case hsame =>
    intro other hother
    simp only [testActionsOf, List.mem_filter, mem_sortedBy, Bool.and_eq_true,
      decide_eq_true_eq] at hother
    rcases hother with ⟨⟨hmem, -, htarget⟩, hpython, hkind⟩
    rcases (mem_allActions_iff hall).mp hmem with ⟨source, hsource, hreported, hsourceId⟩
    have hsourceMem : source ∈ repository.providersById "python" := by
      simp [providersById, hsource, ← hsourceId, hpython]
    rcases exists_attachment hanswers hsourceMem with ⟨otherPython, -, hotherOf⟩
    rcases PythonAttachment.getActions_eq_ok hotherOf.actions_eq with
      ⟨otherComponents, otherRunners, otherTests, otherSpecs, hotherActions⟩
    rcases hotherActions.test_of_action hreported hkind with
      ⟨otherAnalysis, hotherAnalysis, hotherSpec⟩
    have hotherSuite := (PythonAttachment.testAnalyses_names hotherActions.tests_eq).2
      otherAnalysis hotherAnalysis
    have hids : otherAnalysis.testId = analysis.testId :=
      hotherSpec.targetId_eq.symm.trans (htarget.trans hid)
    have hnames := hsuite.name_eq hotherSuite hids
    have hactionId : action.id = "action:python:test:" ++ analysis.name := hspec.id_eq
    have hotherId : other.id = "action:python:test:" ++ otherAnalysis.name := hotherSpec.id_eq
    rw [hactionId, hotherId, hnames]

/-- The actions of the Python attachments are unique exactly where the attachments are
pairwise apart. -/
theorem pythonActions_unique_iff (hothers : repository.OthersListed "python") :
    repository.PythonActionsUnique ↔ pythons.Pairwise PythonAttachment.Apart := by
  rw [← pythonIds_nodup_iff hanswers]
  constructor
  · exact PythonActionsUnique.distinct
  · intro hnodup
    constructor
    case distinct => exact hnodup
    case listed => exact exists_allActions_of_nodup hanswers hothers hnodup
    case oneAction =>
      intro provider hprovider test htest found hfound
      exact oneAction_of_nodup hanswers hprovider htest hfound

end Answers

end Repository

/-- The actions of Python attachments with distinct packages are unique. -/
def PythonActionIdsUnique : Prop :=
  ∀ (repository : Repository) (pythons : List PythonAttachment)
    (components : List (List PythonPackageComponentAnalysis)),
    List.Forall₂ PythonAttachment.Answers pythons (repository.providersById "python") →
      repository.OthersListed "python" →
        pythons.mapM PythonAttachment.componentAnalyses = .ok components →
          (components.flatten.map PythonPackageComponentAnalysis.packageName).Nodup →
            repository.PythonActionsUnique

namespace PythonSample

def attachment (directory packageName : String) : PythonAttachment :=
  { tree :=
      { entries :=
          [(["w"], .directory), (["w", directory], .directory),
            (["w", directory, "pyproject.toml"], .file),
            (["w", directory, packageName], .directory),
            (["w", directory, packageName, "__init__.py"], .file)]
        linkLimit := 40 }
    root := ["w", directory]
    manifest := { hasBuildSystem := true, project := some {} }
    tools := { requirementName := fun requirement => .ok requirement }
    rootRelPath := directory }

def component (directory packageName : String) : PythonPackageComponentAnalysis :=
  { packageName := packageName
    packagePath := directory ++ "/" ++ packageName
    componentKind := .package
    sourceRoots := [directory ++ "/" ++ packageName]
    artifactPaths := [] }

def buildAction (packageName : String) : RepositoryAction :=
  { id := "action:python:build:repository"
    name := "Build python project"
    kind := .buildExecution
    providerId := "python"
    targetId := "repository:python:root"
    targetKind := .repository
    ownerIds := ["component:python:" ++ packageName]
    proofFacets := []
    invocation := ⟨["python", "-m", "build"], none⟩
    dryRunSupported := true
    provenance :=
      [⟨.authoritative, .manifest, none, "derived from pyproject.toml build-system metadata",
        ["pyproject.toml"]⟩] }

def apiProvider : Provider :=
  { providerId := "python", attachmentRootRelPath := "api", actions := [buildAction "shop"] }

def webProvider : Provider :=
  { providerId := "python", attachmentRootRelPath := "web", actions := [buildAction "site"] }

def repository : Repository :=
  ⟨"/w", [apiProvider, webProvider], fun _ => [.architecture, .code, .test, .quality]⟩

def attachments : List PythonAttachment := [attachment "api" "shop", attachment "web" "site"]

theorem api_answers : (attachment "api" "shop").Answers apiProvider := by
  constructor
  case tests_eq => decide +kernel
  case actions_eq => decide +kernel

theorem web_answers : (attachment "web" "site").Answers webProvider := by
  constructor
  case tests_eq => decide +kernel
  case actions_eq => decide +kernel

theorem providers_eq : repository.providersById "python" = [apiProvider, webProvider] := by
  simp [Repository.providersById, repository, apiProvider, webProvider]

theorem answers :
    List.Forall₂ PythonAttachment.Answers attachments (repository.providersById "python") := by
  rw [providers_eq]
  exact .cons api_answers (.cons web_answers .nil)

theorem others : repository.OthersListed "python" := by
  have hpython : ∀ provider ∈ repository.providers, provider.providerId = "python" := by
    simp [repository, apiProvider, webProvider]
  constructor
  case named =>
    intro provider hprovider hne
    exact absurd (hpython provider hprovider) hne
  case tagged =>
    intro provider hprovider hne
    exact absurd (hpython provider hprovider) hne
  case distinct => simp [repository, apiProvider, webProvider]

theorem components_eq :
    attachments.mapM PythonAttachment.componentAnalyses =
      .ok [[component "api" "shop"], [component "web" "site"]] := by
  decide

end PythonSample

theorem pythonActions_unique_iff_twoProjects :
    PythonSample.repository.PythonActionsUnique ↔
      PythonSample.attachments.Pairwise PythonAttachment.Apart :=
  Repository.pythonActions_unique_iff PythonSample.answers PythonSample.others

/-- Two projects which both have a build system have two builds of one id. -/
theorem pythonActionIds_not_always_unique : ¬ PythonActionIdsUnique := by
  intro hunique
  have hactions := hunique PythonSample.repository PythonSample.attachments
    [[PythonSample.component "api" "shop"], [PythonSample.component "web" "site"]]
    PythonSample.answers PythonSample.others PythonSample.components_eq (by decide)
  have hdistinct := hactions.distinct
  rw [PythonSample.providers_eq] at hdistinct
  revert hdistinct
  decide

end SuitCode
