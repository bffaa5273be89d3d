import SuitCode.NpmAnalyses

/-!
# Actions of a provider

The action services of the providers describe their actions by specifications,
and one translator turns each of them into an action of the repository.
-/

namespace SuitCode

open PosixText KeyedList ExceptList

inductive ProviderActionProvenanceKind where
  | manifest
  | testTool
  | heuristic
  deriving DecidableEq, Repr

structure ProviderActionSpec where
  actionId : String
  displayName : String
  kind : ActionKind
  targetId : String
  targetKind : ActionTargetKind
  ownerIds : List String
  argv : List String
  cwd : Option String
  dryRunSupported : Bool
  provenanceKind : ProviderActionProvenanceKind
  provenanceTool : Option String
  provenanceSummary : String
  provenancePaths : List String
  proofFacets : List ActionProofFacet := []
  deriving DecidableEq, Repr

/-- `ActionInvocation(argv=..., cwd=...)`. -/
def ActionInvocation.create (argv : List String) (cwd : Option String) :
    PyResult ActionInvocation :=
  validated
    [(argv.isEmpty, "argv must not be empty"),
      (argv.any isBlank, "argv must not contain empty arguments")]
    ⟨argv, cwd⟩

def repositoryActionChecks (action : RepositoryAction) : List (Bool × String) :=
  [(isBlank action.id, "id must not be empty"),
    (isBlank action.name, "name must not be empty"),
    (isBlank action.providerId, "provider_id must not be empty"),
    (isBlank action.targetId, "target_id must not be empty"),
    (action.ownerIds.any isBlank, "owner_ids must not contain empty values"),
    (!decide action.ownerIds.Nodup, "owner_ids must not contain duplicates"),
    (!decide action.proofFacets.Nodup, "proof_facets must not contain duplicates"),
    (action.provenance.isEmpty, "provenance must not be empty")]

/-- `ProviderActionTranslator`, for a provider and its default test tool. -/
structure ProviderActionTranslator where
  providerId : String
  defaultTestTool : String
  deriving DecidableEq, Repr

namespace ProviderActionTranslator

def toProvenance (translator : ProviderActionTranslator) (item : ProviderActionSpec) :
    PyResult ProvenanceEntry :=
  match item.provenanceKind with
  | .testTool =>
      let sourceTool :=
        match item.provenanceTool with
        | some tool => if tool = "" then translator.defaultTestTool else tool
        | none => translator.defaultTestTool
      ProvenanceEntry.create .authoritative .testTool (some sourceTool) item.provenanceSummary
        item.provenancePaths
  | .heuristic =>
      ProvenanceEntry.create .heuristic .heuristic none item.provenanceSummary
        item.provenancePaths
  | .manifest =>
      ProvenanceEntry.create .authoritative .manifest item.provenanceTool
        item.provenanceSummary item.provenancePaths

def toRepositoryAction (translator : ProviderActionTranslator) (item : ProviderActionSpec) :
    PyResult RepositoryAction := do
  let invocation ← ActionInvocation.create item.argv item.cwd
  let entry ← translator.toProvenance item
  let action : RepositoryAction :=
    { id := item.actionId
      name := item.displayName
      kind := item.kind
      providerId := translator.providerId
      targetId := item.targetId
      targetKind := item.targetKind
      ownerIds := item.ownerIds
      proofFacets := item.proofFacets
      invocation := invocation
      dryRunSupported := item.dryRunSupported
      provenance := [entry] }
  validated (repositoryActionChecks action) action

/-- `get_actions`. -/
def repositoryActions (translator : ProviderActionTranslator)
    (items : List ProviderActionSpec) : PyResult (List RepositoryAction) := do
  let actions ← items.mapM translator.toRepositoryAction
  pure (sortedBy RepositoryAction.id actions)

end ProviderActionTranslator

/-- `_finalize`: the actions of a provider have distinct ids. -/
def finalizeActions (providerName : String) (actions : List ProviderActionSpec) :
    PyResult (List ProviderActionSpec) :=
  match firstDuplicate [] (actions.map ProviderActionSpec.actionId) with
  | some actionId =>
      raiseValueError
        ("duplicate " ++ providerName ++ " action id detected: `" ++ actionId ++ "`")
  | none => .ok (sortedBy ProviderActionSpec.actionId actions)

variable {item : ProviderActionSpec} {translator : ProviderActionTranslator}

/-! ## What the translation keeps -/

namespace ProviderActionTranslator

structure ActionOf (translator : ProviderActionTranslator) (item : ProviderActionSpec)
    (action : RepositoryAction) : Prop where
  id_eq : action.id = item.actionId
  kind_eq : action.kind = item.kind
  targetId_eq : action.targetId = item.targetId
  targetKind_eq : action.targetKind = item.targetKind
  ownerIds_eq : action.ownerIds = item.ownerIds
  invocation_eq : action.invocation = ⟨item.argv, item.cwd⟩
  provenance_eq : ∃ entry, translator.toProvenance item = .ok entry ∧
    action.provenance = [entry]

theorem toRepositoryAction_eq_ok {action : RepositoryAction}
    (hok : translator.toRepositoryAction item = .ok action) :
    translator.ActionOf item action := by
  simp only [toRepositoryAction, bind_eq_ok, validated_eq_ok] at hok
  obtain ⟨invocation, hinvocation, entry, hentry, rfl, -⟩ := hok
  have heq := (validated_eq_ok.mp hinvocation).1
  exact ⟨rfl, rfl, rfl, rfl, rfl, heq.symm, entry, hentry, rfl⟩

/-- Every specification has its action. -/
theorem exists_action_of_spec {items : List ProviderActionSpec} {actions : List RepositoryAction}
    (hok : translator.repositoryActions items = .ok actions) (hitem : item ∈ items) :
    ∃ action ∈ actions, translator.ActionOf item action := by
  simp only [repositoryActions, bind_eq_ok, pure_eq_ok] at hok
  obtain ⟨found, hfound, rfl⟩ := hok
  obtain ⟨action, haction, hrun⟩ := exists_output_of_mem hfound hitem
  exact ⟨action, mem_sortedBy.mpr haction, toRepositoryAction_eq_ok hrun⟩

theorem exists_spec_of_action {items : List ProviderActionSpec} {actions : List RepositoryAction}
    (hok : translator.repositoryActions items = .ok actions) {action : RepositoryAction}
    (haction : action ∈ actions) :
    ∃ item ∈ items, translator.ActionOf item action := by
  simp only [repositoryActions, bind_eq_ok, pure_eq_ok] at hok
  obtain ⟨found, hfound, rfl⟩ := hok
  obtain ⟨item, hitem, hrun⟩ := exists_input_of_mem hfound (mem_sortedBy.mp haction)
  exact ⟨item, hitem, toRepositoryAction_eq_ok hrun⟩

end ProviderActionTranslator

theorem mem_of_finalizeActions {providerName : String} {actions result : List ProviderActionSpec}
    (hok : finalizeActions providerName actions = .ok result) :
    item ∈ result ↔ item ∈ actions := by
  unfold finalizeActions at hok
  split at hok
  · simp at hok
  · rw [Except.ok.injEq] at hok
    rw [← hok, mem_sortedBy]

end SuitCode
