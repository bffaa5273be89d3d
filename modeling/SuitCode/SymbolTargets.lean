import SuitCode.ChangeSetCoherence

/-!
# Symbol targets

A symbol target is resolved through the context of its symbol.  The service
reads the file of the symbol as its `path`, an attribute which entities do not
have, so no symbol target has a change set.
-/

namespace SuitCode

open PosixText KeyedList ExceptList

/-- The target has a change set with the same tests, builds, runner actions and
quality operations. -/
def AgreesWith (repository : Repository) (target : ChangeTarget)
    (fileSet : MinimumVerifiedChangeSet) : Prop :=
  ∃ changeSet, getMinimumVerifiedChangeSet repository target = .ok changeSet ∧
    changeSet.tests.map MinimumVerifiedTestTarget.testId =
      fileSet.tests.map MinimumVerifiedTestTarget.testId ∧
    changeSet.buildTargets.map MinimumVerifiedBuildTarget.actionId =
      fileSet.buildTargets.map MinimumVerifiedBuildTarget.actionId ∧
    changeSet.runnerActions.map MinimumVerifiedRunnerAction.actionId =
      fileSet.runnerActions.map MinimumVerifiedRunnerAction.actionId ∧
    (changeSet.qualityValidationOperations ++ changeSet.qualityHygieneOperations).map
        MinimumVerifiedQualityOperation.id =
      (fileSet.qualityValidationOperations ++ fileSet.qualityHygieneOperations).map
        MinimumVerifiedQualityOperation.id

/-- Every symbol of a file which is no artifact member agrees with that file. -/
def SymbolTargetsAgree (repository : Repository) : Prop :=
  ∀ symbolId symbol resolved fileSet, repository.resolveSymbol symbolId = .ok symbol →
    repository.resolveTarget (.file symbol.repositoryRelPath) = .ok resolved →
      repository.artifactMemberForTarget resolved = none →
        getMinimumVerifiedChangeSet repository (.file symbol.repositoryRelPath) =
            .ok fileSet →
          AgreesWith repository (.symbol symbolId) fileSet

theorem textAttribute_path (symbol : EntityInfo) :
    symbol.textAttribute "path" =
      .error (.attributeError "'EntityInfo' object has no attribute 'path'") := by
  have hnone : symbol.textAttributes.find? (fun entry => entry.1 = "path") = none := by
    simp [EntityInfo.textAttributes]
  unfold EntityInfo.textAttribute
  rw [hnone]
  rfl

theorem resolveTarget_symbol
    {repository : Repository} {symbolId : String} {context : SymbolContext}
    (hcontext : repository.describeSymbolContext symbolId 1 1 = .ok context) :
    repository.resolveTarget (.symbol symbolId) =
      .error (.attributeError "'EntityInfo' object has no attribute 'path'") := by
  simp only [Repository.resolveTarget, hcontext, ok_bind, textAttribute_path, error_bind]

theorem resolveTarget_symbol_ne_ok
    (repository : Repository) (symbolId : String) (resolved : ResolvedMinimumTarget) :
    repository.resolveTarget (.symbol symbolId) ≠ .ok resolved := by
  intro hok
  have hcontext := hok
  unfold Repository.resolveTarget at hcontext
  rcases bind_eq_ok.mp hcontext with ⟨context, hcontext, -⟩
  rw [resolveTarget_symbol hcontext] at hok
  cases hok

theorem getMinimumVerifiedChangeSet_error
    {repository : Repository} {target : ChangeTarget} {exception : PyError}
    (herror : repository.resolveTarget target = .error exception) :
    getMinimumVerifiedChangeSet repository target = .error exception := by
  simp only [getMinimumVerifiedChangeSet, herror, error_bind]

theorem not_agreesWith_symbol (repository : Repository) (symbolId : String)
    (fileSet : MinimumVerifiedChangeSet) : ¬ AgreesWith repository (.symbol symbolId) fileSet := by
  rintro ⟨changeSet, hok, -⟩
  unfold getMinimumVerifiedChangeSet at hok
  obtain ⟨resolved, hresolved, -⟩ := bind_eq_ok.mp hok
  exact resolveTarget_symbol_ne_ok repository symbolId resolved hresolved

/-- No symbol target agrees with a change set, also where its id has passed the check of the
target: where the context of the symbol is available, the service fails on the attribute it
reads from it. -/
theorem symbolTarget_never_agrees (repository : Repository) (symbolId : String) :
    (∀ fileSet, ¬ AgreesWith repository (.symbol symbolId) fileSet) ∧
      (∀ target fileSet, ChangeTarget.ofSymbol symbolId = .ok target →
        ¬ AgreesWith repository target fileSet) ∧
      ∀ context, repository.describeSymbolContext symbolId 1 1 = .ok context →
        getMinimumVerifiedChangeSet repository (.symbol symbolId) =
          .error (.attributeError "'EntityInfo' object has no attribute 'path'") := by
  refine ⟨not_agreesWith_symbol repository symbolId, ?_, ?_⟩
  · intro target fileSet htarget
    rw [← (validated_eq_ok.mp htarget).1]
    exact not_agreesWith_symbol repository symbolId fileSet
  · intro context hcontext
    exact getMinimumVerifiedChangeSet_error (resolveTarget_symbol hcontext)

namespace Sample

def testedSymbol : Repository :=
  repository
    [{ providerId := "py"
       components := [component "c:py:app" ["a.py"] []]
       files := [file "c:py:app" "a.py"]
       discoveredTests := [discovered "test:py:a"]
       relatedTests := fun _ => .ok [relatedMatch "test:py:a" .sameOwner none (some "a.py")]
       testTargets := describe
       symbolsInFile := fun _ => .ok
        [⟨"entity:a.py:function:f", "f", "a.py", "function", some 1, some 1, manifest⟩] }]
    [.architecture, .code, .test]

end Sample

theorem testedSymbol_plan :
    (do
      let symbol ← Sample.testedSymbol.resolveSymbol "entity:a.py:function:f"
      let resolved ← Sample.testedSymbol.resolveTarget (.file symbol.repositoryRelPath)
      let fileSet ←
        getMinimumVerifiedChangeSet Sample.testedSymbol (.file symbol.repositoryRelPath)
      pure (resolved, fileSet) : PyResult _).Yields
        fun found => Sample.testedSymbol.artifactMemberForTarget found.1 = none := by
  decide +kernel

/-- The file of the symbol has a change set, the symbol has none. -/
theorem symbolTargets_not_always_agree :
    ¬ ∀ repository : Repository, SymbolTargetsAgree repository := by
  intro hall
  rcases testedSymbol_plan.exists_ok with ⟨found, hok, hmember⟩
  simp only [bind_eq_ok, pure_eq_ok] at hok
  rcases hok with ⟨symbol, hsymbol, resolved, hresolved, fileSet, hfile, heq⟩
  subst heq
  rcases hall Sample.testedSymbol _ symbol resolved fileSet hsymbol hresolved hmember hfile
    with ⟨changeSet, hchangeSet, -⟩
  unfold getMinimumVerifiedChangeSet at hchangeSet
  rcases bind_eq_ok.mp hchangeSet with ⟨other, hother, -⟩
  exact resolveTarget_symbol_ne_ok _ _ other hother

end SuitCode
