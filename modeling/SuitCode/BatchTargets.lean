import SuitCode.Library.KeyedTable
import SuitCode.Library.RoundRobin
import Mathlib.Logic.Function.Basic

/-!
# Targets of a batch

The targets of a compact batch are worked on in parallel, and those which do not come to a result
are reported as incomplete.  A compact view lists its targets in turn by their owners.
-/

namespace SuitCode

open KeyedTable RoundRobin

/-! ## Collecting the results -/

/-- What the work on each target comes to: its result or the text of its exception, and whether
that is there when the waiting ends. -/
structure TargetWork (α : Type) where
  result : String → Except String α
  inTime : String → Bool

structure IncompleteBatchTargetView where
  repositoryRelPath : String
  reasonCode : String
  message : String
  deriving DecidableEq, Repr

/-- `wait`: the futures which are done and those which are not, in any order. -/
structure Waited {α : Type} (paths : List String) (work : TargetWork α) where
  done : List String
  notDone : List String
  done_perm : done.Perm (paths.filter work.inTime)
  notDone_perm : notDone.Perm (paths.filter fun path => !work.inTime path)

variable {done notDone ownerOrder : List String}

section Collect

variable {α : Type} (toolName detailLevel : String)

def failedView (path text : String) : IncompleteBatchTargetView :=
  ⟨path, "analysis_failed", toolName ++ " failed for `" ++ path ++ "`: " ++ text⟩

def timeoutView (path : String) : IncompleteBatchTargetView :=
  ⟨path, "analysis_timeout", toolName ++ " exceeded the grouped " ++ detailLevel ++
    " per-target timeout of 120s for `" ++ path ++ "`"⟩

/-- `completed_by_path` and `incomplete_by_path`. -/
structure CollectedResults (α : Type) where
  completedByPath : KeyedTable (Prod.fst : String × α → String)
  incompleteByPath : KeyedTable IncompleteBatchTargetView.repositoryRelPath

def collectDone (work : TargetWork α) (collected : CollectedResults α) (path : String) :
    CollectedResults α :=
  match work.result path with
  | .ok value =>
      { collected with completedByPath := collected.completedByPath.upsert (path, value) }
  | .error text =>
      { collected with
        incompleteByPath := collected.incompleteByPath.upsert (failedView toolName path text) }

def collectNotDone (collected : CollectedResults α) (path : String) : CollectedResults α :=
  { collected with
    incompleteByPath :=
      collected.incompleteByPath.upsert (timeoutView toolName detailLevel path) }

def shouldParallelizeBatch (detailLevel : String) (targetCount : ℕ) : Bool :=
  if detailLevel = "compact" then decide (1 < targetCount) else false

/-- `_collect_batch_results`; what is raised is its text. -/
def collectBatchResults (paths : List String) (work : TargetWork α) (waited : Waited paths work)
    (allowParallel : Bool) : Except String (List α × List IncompleteBatchTargetView) :=
  if !allowParallel then do
    let completed ← paths.mapM work.result
    return (completed, [])
  else if paths = [] then .error "max_workers must be greater than 0"
  else
    let collected := waited.notDone.foldl (collectNotDone toolName detailLevel)
      (waited.done.foldl (collectDone toolName work) ⟨.empty, .empty⟩)
    .ok
      (paths.filterMap fun path => (collected.completedByPath.lookup path).map Prod.snd,
        paths.filterMap fun path => collected.incompleteByPath.lookup path)

def Explains (work : TargetWork α) (view : IncompleteBatchTargetView) : Prop :=
  (work.inTime view.repositoryRelPath = true ∧ ∃ text,
    work.result view.repositoryRelPath = .error text ∧
      view = failedView toolName view.repositoryRelPath text) ∨
  (work.inTime view.repositoryRelPath = false ∧
    view = timeoutView toolName detailLevel view.repositoryRelPath)

/-- Every path is that of one completed or one incomplete target, both in the order of the
paths. -/
structure SplitsTargets (paths : List String) (work : TargetWork α) (completed : List α)
    (incomplete : List IncompleteBatchTargetView) : Prop where
  exists_finished : ∃ finished : List String, finished.Sublist paths ∧
    (finished ++ incomplete.map IncompleteBatchTargetView.repositoryRelPath).Perm paths ∧
    (finished ++ incomplete.map IncompleteBatchTargetView.repositoryRelPath).Nodup ∧
    List.Forall₂ (fun path value => work.inTime path = true ∧ work.result path = .ok value)
      finished completed
  incomplete_sublist :
    (incomplete.map IncompleteBatchTargetView.repositoryRelPath).Sublist paths
  explained : ∀ view ∈ incomplete, Explains toolName detailLevel work view

/-- What is collected from the futures which are done and those which are not. -/
structure CollectedOf (work : TargetWork α) (done notDone : List String)
    (collected : CollectedResults α) : Prop where
  mem_completed : ∀ row, row ∈ collected.completedByPath ↔
    row.1 ∈ done ∧ work.result row.1 = .ok row.2
  mem_incomplete : ∀ view, view ∈ collected.incompleteByPath ↔
    (view.repositoryRelPath ∈ done ∧ ∃ text, work.result view.repositoryRelPath = .error text ∧
      view = failedView toolName view.repositoryRelPath text) ∨
    (view.repositoryRelPath ∈ notDone ∧
      view = timeoutView toolName detailLevel view.repositoryRelPath)

variable {toolName detailLevel} {work : TargetWork α} {collected : CollectedResults α}

theorem CollectedOf.collectDone
    (hcollected : CollectedOf toolName detailLevel work done [] collected) (path : String) :
    CollectedOf toolName detailLevel work (done ++ [path]) []
      (SuitCode.collectDone toolName work collected path) := by
  unfold SuitCode.collectDone
  cases hresult : work.result path with
  | ok value =>
      constructor
      case mem_completed =>
        intro row
        simp only [mem_upsert, hcollected.mem_completed, List.mem_append, List.mem_singleton]
        constructor
        · rintro (rfl | ⟨⟨hdone, hrow⟩, -⟩)
          · exact ⟨Or.inr rfl, hresult⟩
          · exact ⟨Or.inl hdone, hrow⟩
        · rintro ⟨hdone, hrow⟩
          by_cases hpath : row.1 = path
          · left
            rw [hpath, hresult] at hrow
            exact Prod.ext hpath (Except.ok.inj hrow).symm
          · exact Or.inr ⟨⟨hdone.resolve_right hpath, hrow⟩, hpath⟩
      case mem_incomplete =>
        intro view
        simp only [hcollected.mem_incomplete, List.mem_append, List.mem_singleton,
          List.not_mem_nil, false_and, or_false]
        constructor
        · rintro ⟨hdone, hview⟩
          exact ⟨Or.inl hdone, hview⟩
        · rintro ⟨hdone, text, htext, hview⟩
          refine ⟨hdone.resolve_right ?_, text, htext, hview⟩
          intro hpath
          rw [hpath, hresult] at htext
          cases htext
  | error text =>
      constructor
      case mem_completed =>
        intro row
        simp only [hcollected.mem_completed, List.mem_append, List.mem_singleton]
        constructor
        · rintro ⟨hdone, hrow⟩
          exact ⟨Or.inl hdone, hrow⟩
        · rintro ⟨hdone, hrow⟩
          refine ⟨hdone.resolve_right ?_, hrow⟩
          intro hpath
          rw [hpath, hresult] at hrow
          cases hrow
      case mem_incomplete =>
        intro view
        simp only [mem_upsert, hcollected.mem_incomplete, List.mem_append, List.mem_singleton,
          List.not_mem_nil, false_and, or_false]
        constructor
        · rintro (rfl | ⟨⟨hdone, hview⟩, -⟩)
          · exact ⟨Or.inr rfl, text, hresult, rfl⟩
          · exact ⟨Or.inl hdone, hview⟩
        · rintro ⟨hdone, other, hother, hview⟩
          by_cases hpath : view.repositoryRelPath = path
          · left
            rw [hpath, hresult] at hother
            rw [hview, hpath, Except.error.inj hother]
          · exact Or.inr ⟨⟨hdone.resolve_right hpath, other, hother, hview⟩, hpath⟩

theorem CollectedOf.collectNotDone
    (hcollected : CollectedOf toolName detailLevel work done notDone collected) {path : String}
    (hpath : path ∉ done) :
    CollectedOf toolName detailLevel work done (notDone ++ [path])
      (SuitCode.collectNotDone toolName detailLevel collected path) := by
  constructor
  case mem_completed => exact hcollected.mem_completed
  case mem_incomplete =>
    intro view
    simp only [SuitCode.collectNotDone, mem_upsert, hcollected.mem_incomplete, List.mem_append,
      List.mem_singleton]
    constructor
    · rintro (rfl | ⟨hdone | ⟨hnot, hview⟩, -⟩)
      · exact Or.inr ⟨Or.inr rfl, rfl⟩
      · exact Or.inl hdone
      · exact Or.inr ⟨Or.inl hnot, hview⟩
    · rintro (⟨hdone, hview⟩ | ⟨hnot, hview⟩)
      · refine Or.inr ⟨Or.inl ⟨hdone, hview⟩, ?_⟩
        exact ne_of_mem_of_not_mem hdone hpath
      · by_cases heq : view.repositoryRelPath = path
        · left
          rw [hview, heq]
        · exact Or.inr ⟨Or.inr ⟨hnot.resolve_right heq, hview⟩, heq⟩

theorem CollectedOf.incomplete_iff
    (hcollected : CollectedOf toolName detailLevel work done notDone collected) {path : String}
    (hone : path ∈ notDone ↔ path ∉ done) :
    collected.incompleteByPath.HasKey path ↔ ¬ collected.completedByPath.HasKey path := by
  constructor
  · rintro ⟨view, hview, hkey⟩ ⟨row, hrow, hpath⟩
    have hcompleted := (hcollected.mem_completed row).mp hrow
    rw [hpath] at hcompleted
    cases (hcollected.mem_incomplete view).mp hview with
    | inl hfailed =>
        obtain ⟨-, text, htext, -⟩ := hfailed
        rw [hkey, hcompleted.2] at htext
        cases htext
    | inr hlate =>
        rw [hkey] at hlate
        exact hone.mp hlate.1 hcompleted.1
  · intro hnone
    by_cases hdone : path ∈ done
    · cases hresult : work.result path with
      | ok value =>
          exact absurd ⟨(path, value), (hcollected.mem_completed _).mpr ⟨hdone, hresult⟩, rfl⟩ hnone
      | error text =>
          exact ⟨failedView toolName path text,
            (hcollected.mem_incomplete _).mpr (Or.inl ⟨hdone, text, hresult, rfl⟩), rfl⟩
    · exact ⟨timeoutView toolName detailLevel path,
        (hcollected.mem_incomplete _).mpr (Or.inr ⟨hone.mpr hdone, rfl⟩), rfl⟩

theorem isSome_lookup_iff {ρ κ : Type} [DecidableEq κ] {key : ρ → κ} {table : KeyedTable key}
    {wanted : κ} : (table.lookup wanted).isSome = true ↔ table.HasKey wanted := by
  rw [← not_iff_not, ← lookup_eq_none_iff, Bool.not_eq_true, Option.isSome_eq_false_iff,
    Option.isNone_iff_eq_none]

theorem collectedOf_foldl_done (done : List String) :
    CollectedOf toolName detailLevel work done []
      (done.foldl (collectDone toolName work) ⟨.empty, .empty⟩) := by
  induction done using List.reverseRecOn with
  | nil =>
      constructor
      case mem_completed => simp
      case mem_incomplete => simp
  | append_singleton done path ih =>
      rw [List.foldl_append]
      exact ih.collectDone path

theorem collectedOf_foldl_notDone
    (hcollected : CollectedOf toolName detailLevel work done [] collected)
    (hnot : ∀ path ∈ notDone, path ∉ done) :
    CollectedOf toolName detailLevel work done notDone
      (notDone.foldl (collectNotDone toolName detailLevel) collected) := by
  induction notDone using List.reverseRecOn with
  | nil => exact hcollected
  | append_singleton notDone path ih =>
      rw [List.foldl_append]
      have hbefore := ih fun other hother => hnot other (List.mem_append_left _ hother)
      exact hbefore.collectNotDone (hnot path (by simp))

theorem forall₂_filterMap {β γ : Type} {find : β → Option γ} {related : β → γ → Prop}
    (hfind : ∀ item found, find item = some found → related item found) (items : List β) :
    List.Forall₂ related (items.filter fun item => (find item).isSome)
      (items.filterMap find) := by
  induction items with
  | nil => exact List.Forall₂.nil
  | cons item items ih =>
      cases hitem : find item with
      | none => simpa [hitem] using ih
      | some found => simpa [hitem] using ⟨hfind item found hitem, ih⟩

theorem map_filterMap_key {β γ : Type} {find : β → Option γ} {key : γ → β}
    (hfind : ∀ item found, find item = some found → key found = item) (items : List β) :
    (items.filterMap find).map key = items.filter fun item => (find item).isSome := by
  induction items with
  | nil => rfl
  | cons item items ih =>
      cases hitem : find item with
      | none => simpa [hitem] using ih
      | some found => simpa [hitem, hfind item found hitem] using ih

theorem splitsTargets_of_collectedOf {paths : List String} (hnodup : paths.Nodup)
    (hdone : ∀ path, path ∈ done ↔ path ∈ paths ∧ work.inTime path)
    (hnotDone : ∀ path, path ∈ notDone ↔ path ∈ paths ∧ work.inTime path = false)
    (hcollected : CollectedOf toolName detailLevel work done notDone collected) :
    SplitsTargets toolName detailLevel paths work
      (paths.filterMap fun path => (collected.completedByPath.lookup path).map Prod.snd)
      (paths.filterMap fun path => collected.incompleteByPath.lookup path) := by
  have hcompleted : ∀ path value,
      (collected.completedByPath.lookup path).map Prod.snd = some value →
        work.inTime path = true ∧ work.result path = .ok value := by
    intro path value hfound
    obtain ⟨row, hrow, hvalue⟩ := Option.map_eq_some_iff.mp hfound
    obtain ⟨hmem, hkey⟩ := lookup_eq_some_iff.mp hrow
    obtain ⟨hin, hresult⟩ := (hcollected.mem_completed row).mp hmem
    rw [hkey] at hin hresult
    rw [hvalue] at hresult
    exact ⟨((hdone path).mp hin).2, hresult⟩
  have hview : ∀ path view, collected.incompleteByPath.lookup path = some view →
      view.repositoryRelPath = path := by
    intro path view hfound
    exact (lookup_eq_some_iff.mp hfound).2
  have hone : ∀ path ∈ paths, (collected.incompleteByPath.lookup path).isSome =
      !((collected.completedByPath.lookup path).map Prod.snd).isSome := by
    intro path hpath
    have hiff : path ∈ notDone ↔ path ∉ done := by
      rw [hdone, hnotDone]
      simp [hpath]
    have hlookup := hcollected.incomplete_iff hiff
    rw [← isSome_lookup_iff, ← isSome_lookup_iff, Bool.not_eq_true] at hlookup
    rw [Option.isSome_map]
    cases hcompletedSome : (collected.completedByPath.lookup path).isSome with
    | true => simpa [hcompletedSome] using hlookup
    | false => exact hlookup.mpr hcompletedSome
  have hmap := map_filterMap_key hview paths
  have hincomplete : (paths.filterMap fun path => collected.incompleteByPath.lookup path).map
      IncompleteBatchTargetView.repositoryRelPath = paths.filter fun path =>
        !((collected.completedByPath.lookup path).map Prod.snd).isSome := by
    rw [hmap]
    exact List.filter_congr hone
  constructor
  case exists_finished =>
    have hperm := List.filter_append_perm
      (fun path => ((collected.completedByPath.lookup path).map Prod.snd).isSome) paths
    rw [← hincomplete] at hperm
    exact ⟨_, List.filter_sublist, hperm, hperm.nodup_iff.mpr hnodup,
      forall₂_filterMap hcompleted paths⟩
  case incomplete_sublist =>
    rw [hincomplete]
    exact List.filter_sublist
  case explained =>
    intro view hmem
    obtain ⟨path, hpath, hfound⟩ := List.mem_filterMap.mp hmem
    have hin := (lookup_eq_some_iff.mp hfound).1
    cases (hcollected.mem_incomplete view).mp hin with
    | inl hfailed => exact Or.inl ⟨((hdone _).mp hfailed.1).2, hfailed.2⟩
    | inr hlate => exact Or.inr ⟨((hnotDone _).mp hlate.1).2, hlate.2⟩

theorem collectBatchResults_splits {paths : List String} (hnodup : paths.Nodup)
    (hsome : paths ≠ []) (waited : Waited paths work) :
    ∃ completed incomplete,
      collectBatchResults toolName detailLevel paths work waited true =
        .ok (completed, incomplete) ∧
      SplitsTargets toolName detailLevel paths work completed incomplete := by
  have hdone : ∀ path, path ∈ waited.done ↔ path ∈ paths ∧ work.inTime path := by
    intro path
    rw [waited.done_perm.mem_iff, List.mem_filter]
  have hnotDone : ∀ path, path ∈ waited.notDone ↔ path ∈ paths ∧ work.inTime path = false := by
    intro path
    rw [waited.notDone_perm.mem_iff, List.mem_filter, Bool.not_eq_true']
  have hapart : ∀ path ∈ waited.notDone, path ∉ waited.done := by
    intro path hnot hin
    have hlate := ((hnotDone path).mp hnot).2
    rw [((hdone path).mp hin).2] at hlate
    cases hlate
  have hcollected := collectedOf_foldl_notDone
    (@collectedOf_foldl_done α toolName detailLevel work waited.done) hapart
  refine ⟨_, _, ?_, splitsTargets_of_collectedOf hnodup hdone hnotDone hcollected⟩
  unfold collectBatchResults
  rw [if_neg (by simp), if_neg hsome]

end Collect

/-! ## Taking turns by owner -/

section Owners

variable {τ : Type} (ownerOf : τ → String)

/-- `owner_order` and `grouped`. -/
structure OwnerQueues (τ : Type) where
  ownerOrder : List String
  grouped : String → List τ
  nodup : ownerOrder.Nodup

def enqueueTarget (queues : OwnerQueues τ) (target : τ) : OwnerQueues τ where
  ownerOrder :=
    if ownerOf target ∈ queues.ownerOrder then queues.ownerOrder
    else queues.ownerOrder ++ [ownerOf target]
  grouped := Function.update queues.grouped (ownerOf target)
    (queues.grouped (ownerOf target) ++ [target])
  nodup := by
    split
    · exact queues.nodup
    · rename_i habsent
      exact List.nodup_append.mpr ⟨queues.nodup, List.nodup_singleton _, by
        intro ownerId hownerId other hother heq
        rw [heq, List.mem_singleton.mp hother] at hownerId
        exact habsent hownerId⟩

def enqueueTargets (targets : List τ) : OwnerQueues τ :=
  targets.foldl (enqueueTarget ownerOf) ⟨[], fun _ => [], List.nodup_nil⟩

structure PassState (τ : Type) where
  grouped : String → List τ
  ordered : List τ
  remaining : Bool

def serveOwner (state : PassState τ) (ownerId : String) : PassState τ :=
  match state.grouped ownerId with
  | [] => state
  | target :: rest =>
      { grouped := Function.update state.grouped ownerId rest
        ordered := state.ordered ++ [target]
        remaining := true }

def servePass (ownerOrder : List String) (grouped : String → List τ) (ordered : List τ) :
    PassState τ :=
  ownerOrder.foldl serveOwner ⟨grouped, ordered, false⟩

theorem servePass_eq (hnodup : ownerOrder.Nodup) (grouped : String → List τ) (ordered : List τ)
    (remaining : Bool) :
    ownerOrder.foldl serveOwner ⟨grouped, ordered, remaining⟩ =
      { grouped := fun ownerId =>
          if ownerId ∈ ownerOrder then (grouped ownerId).tail else grouped ownerId
        ordered := ordered ++ turn ownerOrder grouped
        remaining := remaining || !(turn ownerOrder grouped).isEmpty } := by
  induction ownerOrder generalizing grouped ordered remaining with
  | nil => simp [turn]
  | cons ownerId ownerOrder ih =>
      have hfirst := (List.nodup_cons.mp hnodup).1
      rw [List.foldl_cons]
      cases hqueue : grouped ownerId with
      | nil =>
          have hserved : serveOwner ⟨grouped, ordered, remaining⟩ ownerId =
              ⟨grouped, ordered, remaining⟩ := by
            simp [serveOwner, hqueue]
          have hturn : turn (ownerId :: ownerOrder) grouped = turn ownerOrder grouped := by
            simp [turn, hqueue]
          rw [hserved, ih (List.nodup_cons.mp hnodup).2, hturn]
          congr 1
          funext other
          by_cases heq : other = ownerId
          · simp [heq, hqueue]
          · simp [heq]
      | cons target rest =>
          have hserved : serveOwner ⟨grouped, ordered, remaining⟩ ownerId =
              ⟨Function.update grouped ownerId rest, ordered ++ [target], true⟩ := by
            simp [serveOwner, hqueue]
          have hturn : turn ownerOrder (Function.update grouped ownerId rest) =
              turn ownerOrder grouped := by
            apply List.filterMap_congr
            intro other hother
            rw [Function.update_of_ne (ne_of_mem_of_not_mem hother hfirst)]
          rw [hserved, ih (List.nodup_cons.mp hnodup).2, hturn]
          congr 1
          · funext other
            by_cases heq : other = ownerId
            · simp [heq, hfirst, hqueue]
            · simp [heq]
          · simp [turn, hqueue]
          · simp [turn, hqueue]

theorem remaining_servePass (hnodup : ownerOrder.Nodup) (grouped : String → List τ)
    (ordered : List τ) :
    (servePass ownerOrder grouped ordered).remaining = true ↔ turn ownerOrder grouped ≠ [] := by
  rw [servePass, servePass_eq hnodup]
  simp

theorem size_servePass (hnodup : ownerOrder.Nodup) (grouped : String → List τ) (ordered : List τ) :
    size ownerOrder (servePass ownerOrder grouped ordered).grouped =
      size ownerOrder (behind grouped) := by
  rw [servePass, servePass_eq hnodup]
  unfold size
  congr 1
  apply List.map_congr_left
  intro ownerId hownerId
  simp [behind, hownerId]

/-- `while remaining`. -/
def serveOwners (ownerOrder : List String) (hnodup : ownerOrder.Nodup)
    (grouped : String → List τ) (ordered : List τ) : List τ :=
  if (servePass ownerOrder grouped ordered).remaining = true then
    serveOwners ownerOrder hnodup (servePass ownerOrder grouped ordered).grouped
      (servePass ownerOrder grouped ordered).ordered
  else (servePass ownerOrder grouped ordered).ordered
termination_by size ownerOrder grouped
decreasing_by
  rw [size_servePass hnodup]
  exact size_behind_lt ((remaining_servePass hnodup grouped ordered).mp ‹_›)

def ownerRoundRobinTargets (targets : List τ) : List τ :=
  serveOwners (enqueueTargets ownerOf targets).ownerOrder (enqueueTargets ownerOf targets).nodup
    (enqueueTargets ownerOf targets).grouped []

def HasLeft (ordered : List τ) (count : ℕ) (ownerId : String) : Prop :=
  ∃ target ∈ ordered.drop count, ownerOf target = ownerId

def takenFrom (ordered : List τ) (count : ℕ) (ownerId : String) : ℕ :=
  (ordered.take count).countP fun target => ownerOf target = ownerId

structure TakesTurns (targets ordered : List τ) : Prop where
  perm : ordered.Perm targets
  order_kept : ∀ ownerId, ordered.filter (fun target => ownerOf target = ownerId) =
    targets.filter fun target => ownerOf target = ownerId
  fair : ∀ count left right, HasLeft ownerOf ordered count left →
    HasLeft ownerOf ordered count right →
      takenFrom ownerOf ordered count left ≤ takenFrom ownerOf ordered count right + 1 ∧
        takenFrom ownerOf ordered count right ≤ takenFrom ownerOf ordered count left + 1

structure QueuesOf (targets : List τ) (queues : OwnerQueues τ) : Prop where
  grouped_eq : ∀ ownerId, queues.grouped ownerId =
    targets.filter fun target => ownerOf target = ownerId
  mem_order : ∀ ownerId, queues.grouped ownerId ≠ [] → ownerId ∈ queues.ownerOrder

variable {ownerOf}

variable {queues : OwnerQueues τ} {targets : List τ}

theorem QueuesOf.enqueue (hqueues : QueuesOf ownerOf targets queues) (target : τ) :
    QueuesOf ownerOf (targets ++ [target]) (enqueueTarget ownerOf queues target) := by
  constructor
  case grouped_eq =>
    intro ownerId
    unfold enqueueTarget
    simp only
    by_cases heq : ownerId = ownerOf target
    · rw [heq, Function.update_self, hqueues.grouped_eq, List.filter_append]
      simp
    · rw [Function.update_of_ne heq, hqueues.grouped_eq, List.filter_append]
      simp [Ne.symm heq]
  case mem_order =>
    intro ownerId hsome
    unfold enqueueTarget at hsome ⊢
    simp only at hsome ⊢
    by_cases heq : ownerId = ownerOf target
    · rw [heq]
      split
      · assumption
      · simp
    · rw [Function.update_of_ne heq] at hsome
      have hmem := hqueues.mem_order ownerId hsome
      split
      · exact hmem
      · exact List.mem_append_left _ hmem

theorem queuesOf_enqueueTargets (targets : List τ) :
    QueuesOf ownerOf targets (enqueueTargets ownerOf targets) := by
  induction targets using List.reverseRecOn with
  | nil =>
      constructor
      case grouped_eq => exact fun _ => rfl
      case mem_order => exact fun _ hsome => absurd rfl hsome
  | append_singleton targets target ih =>
      unfold enqueueTargets at ih ⊢
      rw [List.foldl_append]
      exact ih.enqueue target

theorem QueuesOf.sorted (hqueues : QueuesOf ownerOf targets queues) :
    Sorted ownerOf queues.ownerOrder queues.grouped := by
  constructor
  case nodup => exact queues.nodup
  case mem_order => exact hqueues.mem_order
  case key_eq =>
    intro ownerId target htarget
    rw [hqueues.grouped_eq] at htarget
    simpa using (List.mem_filter.mp htarget).2

theorem serveOwners_eq {hnodup : ownerOrder.Nodup} {grouped : String → List τ}
    (hsorted : Sorted ownerOf ownerOrder grouped) (ordered : List τ) :
    serveOwners ownerOrder hnodup grouped ordered = ordered ++ serve ownerOrder grouped := by
  fun_induction serveOwners ownerOrder hnodup grouped ordered with
  | case1 grouped ordered hremaining ih =>
      have hturn := (remaining_servePass hnodup grouped ordered).mp hremaining
      have hgrouped : (servePass ownerOrder grouped ordered).grouped = behind grouped := by
        rw [servePass, servePass_eq hnodup]
        funext ownerId
        by_cases hmem : ownerId ∈ ownerOrder
        · simp [hmem, behind]
        · have hnil : grouped ownerId = [] := by
            by_contra hsome
            exact hmem (hsorted.mem_order ownerId hsome)
          simp [behind, hnil]
      have hordered : (servePass ownerOrder grouped ordered).ordered =
          ordered ++ turn ownerOrder grouped := by
        rw [servePass, servePass_eq hnodup]
      rw [hgrouped] at ih
      rw [hgrouped, ih hsorted.behind, hordered, serve.eq_def ownerOrder grouped, if_neg hturn,
        List.append_assoc]
  | case2 grouped ordered hremaining =>
      have hturn : turn ownerOrder grouped = [] := by
        by_contra hne
        exact hremaining ((remaining_servePass hnodup grouped ordered).mpr hne)
      rw [servePass, servePass_eq hnodup, serve, if_pos hturn, hturn]

theorem takesTurns_serve (hqueues : QueuesOf ownerOf targets queues) :
    TakesTurns ownerOf targets (serve queues.ownerOrder queues.grouped) := by
  have hsorted := hqueues.sorted
  have hkept : ∀ ownerId, (serve queues.ownerOrder queues.grouped).filter
      (fun target => ownerOf target = ownerId) =
        targets.filter fun target => ownerOf target = ownerId := by
    intro ownerId
    rw [hsorted.filter_serve, hqueues.grouped_eq]
  have hbound : ∀ count ownerId,
      HasLeft ownerOf (serve queues.ownerOrder queues.grouped) count ownerId →
        takenFrom ownerOf (serve queues.ownerOrder queues.grouped) count ownerId <
          (queues.grouped ownerId).length := by
    intro count ownerId hleft
    obtain ⟨target, htarget, howner⟩ := hleft
    have hpos : 0 < ((serve queues.ownerOrder queues.grouped).drop count).countP
        fun target => ownerOf target = ownerId :=
      List.countP_pos_iff.mpr ⟨target, htarget, by simpa using howner⟩
    have hsum := congrArg (List.countP fun target => ownerOf target = ownerId)
      (List.take_append_drop count (serve queues.ownerOrder queues.grouped))
    rw [List.countP_append] at hsum
    have htotal : (serve queues.ownerOrder queues.grouped).countP
        (fun target => ownerOf target = ownerId) = (queues.grouped ownerId).length := by
      rw [List.countP_eq_length_filter, hsorted.filter_serve]
    unfold takenFrom
    omega
  constructor
  case perm => exact perm_of_filter_eq hkept
  case order_kept => exact hkept
  case fair =>
    intro count left right hleft hright
    constructor
    · exact hsorted.served_le count (hbound count right hright)
    · exact hsorted.served_le count (hbound count left hleft)

end Owners

/-- A compact batch loses no target, and its owners take turns. -/
theorem batch_targets_kept {α τ : Type} (toolName detailLevel : String) {paths : List String}
    (work : TargetWork α) (waited : Waited paths work) (hdistinct : paths.Nodup)
    (hparallel : shouldParallelizeBatch detailLevel paths.length = true)
    (ownerOf : τ → String) (targets : List τ) :
    (∃ completed incomplete,
      collectBatchResults toolName detailLevel paths work waited
          (shouldParallelizeBatch detailLevel paths.length) = .ok (completed, incomplete) ∧
        SplitsTargets toolName detailLevel paths work completed incomplete) ∧
      TakesTurns ownerOf targets (ownerRoundRobinTargets ownerOf targets) := by
  constructor
  · rw [hparallel]
    apply collectBatchResults_splits hdistinct
    rintro rfl
    unfold shouldParallelizeBatch at hparallel
    split at hparallel
    · cases hparallel
    · cases hparallel
  · have hqueues : QueuesOf ownerOf targets (enqueueTargets ownerOf targets) :=
      queuesOf_enqueueTargets targets
    unfold ownerRoundRobinTargets
    rw [serveOwners_eq hqueues.sorted, List.nil_append]
    exact takesTurns_serve hqueues

/-- One target which fails, one which is late and one with a result. -/
theorem batch_targets_kept_three :
    let work : TargetWork ℕ :=
      { result := fun path => if path = "a.py" then .error "no owner" else .ok path.length
        inTime := fun path => path ≠ "b.py" }
    let waited : Waited ["a.py", "b.py", "lib.py"] work :=
      { done := ["lib.py", "a.py"]
        notDone := ["b.py"]
        done_perm := by decide
        notDone_perm := by decide }
    (∃ completed incomplete,
      collectBatchResults "understand_file" "compact" ["a.py", "b.py", "lib.py"] work waited
          (shouldParallelizeBatch "compact" 3) = .ok (completed, incomplete) ∧
        SplitsTargets "understand_file" "compact" ["a.py", "b.py", "lib.py"] work completed
          incomplete) ∧
      TakesTurns (fun path : String => path) ["a.py", "a.py", "b.py"]
        (ownerRoundRobinTargets (fun path : String => path) ["a.py", "a.py", "b.py"]) := by
  intro work waited
  exact batch_targets_kept "understand_file" "compact" work waited (by decide) (by decide)
    (fun path : String => path) ["a.py", "a.py", "b.py"]

end SuitCode
