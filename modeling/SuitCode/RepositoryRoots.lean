import SuitCode.WorkspaceRegistry
import Mathlib.Data.List.Infix

/-!
# Roots of repositories

The root for a directory is searched among its ancestors, up to the nearest one with a marker:
first for a directory which a provider supports, then for the markers by their rank.  The search
from any directory between the root and the start ends at the same root, and the marker which
opening a repository writes at a supported root changes no search.
-/

namespace SuitCode

open PosixText ExceptList

/-! ## Directories -/

/-- What `Path` tells of a tree: a resolved path is absolute and without links, so that its
ancestors are resolved too, and the ancestors of a directory are directories. -/
structure DirectoryTree where
  resolve : List String → List String
  pathExists : List String → Bool
  isDirectory : List String → Bool
  resolve_ancestor : ∀ {path ancestor}, ancestor <+: resolve path → resolve ancestor = ancestor
  exists_of_directory : ∀ {path}, isDirectory path = true → pathExists path = true
  isDirectory_ancestor : ∀ {path ancestor}, isDirectory path = true → ancestor <+: path →
    isDirectory ancestor = true

def vcMarkers : List String := [".git", ".hg", ".svn", ".bzr"]

def ideMarkers : List String := [".vscode", ".idea"]

def suitDirectory : String := ".suit"

/-- `[path, *path.parents]`. -/
def pathAncestors (path : List String) : List (List String) := path.inits.reverse

theorem mem_pathAncestors {path ancestor : List String} :
    ancestor ∈ pathAncestors path ↔ ancestor <+: path := by
  unfold pathAncestors
  rw [List.mem_reverse, List.mem_inits]

theorem pathAncestors_of_below {path ancestor : List String} (hbelow : ancestor <+: path) :
    ∃ below, pathAncestors path = below ++ pathAncestors ancestor ∧
      ∀ one ∈ below, ¬ one <+: ancestor := by
  obtain ⟨rest, hrest⟩ := hbelow
  use ((rest.inits.tail.map fun tail => ancestor ++ tail).reverse)
  constructor
  · unfold pathAncestors
    rw [← hrest, List.inits_append, List.reverse_append]
  · intro one hone habove
    rw [List.mem_reverse, List.mem_map] at hone
    obtain ⟨tail, htail, hone⟩ := hone
    rw [← hone] at habove
    have hlength := habove.length_le
    rw [List.length_append] at hlength
    have hempty : tail = [] := List.eq_nil_of_length_eq_zero (by omega)
    cases rest with
    | nil => simp at htail
    | cons first rest => simp [hempty] at htail

/-! ## Up to the first -/

section ThroughFirst

variable {α : Type} {p : α → Bool}

def throughFirst (p : α → Bool) : List α → List α
  | [] => []
  | item :: items => if p item then [item] else item :: throughFirst p items

theorem take_findIdx?_eq (items : List α) :
    items.take ((items.findIdx? p).getD (items.length - 1) + 1) = throughFirst p items := by
  induction items with
  | nil => rfl
  | cons item items ih =>
      rw [List.findIdx?_cons]
      cases hitem : p item with
      | true => simp [throughFirst, hitem]
      | false =>
          simp only [throughFirst, hitem, Bool.false_eq_true, if_false, List.take_succ_cons]
          cases items with
          | nil => rfl
          | cons next items =>
              rw [← ih]
              cases List.findIdx? p (next :: items) with
              | none => simp
              | some index => simp

variable {items back front : List α}

theorem mem_of_mem_throughFirst {item : α} (hitem : item ∈ throughFirst p items) :
    item ∈ items := by
  rw [← take_findIdx?_eq] at hitem
  exact List.mem_of_mem_take hitem

theorem throughFirst_append (hfront : ∀ item ∈ front, p item = false) :
    throughFirst p (front ++ back) = front ++ throughFirst p back := by
  induction front with
  | nil => rfl
  | cons item front ih =>
      have hitem := hfront item List.mem_cons_self
      have hrest := ih fun later hlater => hfront later (List.mem_cons_of_mem _ hlater)
      simp only [List.cons_append, throughFirst, hitem, Bool.false_eq_true, if_false, hrest]

theorem throughFirst_append_of_mem {item : α} (hmem : item ∈ front) (hitem : p item = true) :
    throughFirst p (front ++ back) = throughFirst p front := by
  induction front with
  | nil => cases hmem
  | cons other front ih =>
      cases hother : p other with
      | true => simp [throughFirst, hother]
      | false =>
          have hrest : item ∈ front := by
            cases List.mem_cons.mp hmem with
            | inl heq =>
                rw [heq, hother] at hitem
                cases hitem
            | inr hrest => exact hrest
          simp [throughFirst, hother, ih hrest]

theorem throughFirst_congr {q : α → Bool} (hsame : ∀ item ∈ throughFirst p items, q item = p item) :
    throughFirst q items = throughFirst p items := by
  induction items with
  | nil => rfl
  | cons item items ih =>
      have hhead : item ∈ throughFirst p (item :: items) := by
        unfold throughFirst
        cases p item <;> simp
      have hitem := hsame item hhead
      unfold throughFirst
      rw [hitem]
      cases hvalue : p item with
      | true => rfl
      | false =>
          have hrest := ih fun later hlater => hsame later (by simp [throughFirst, hvalue, hlater])
          simp [hrest]

theorem find?_of_append {found : Option α} (hfound : (front ++ back).find? p = found)
    (hback : ∀ item, found = some item → item ∉ front) :
    back.find? p = found := by
  rw [List.find?_append] at hfound
  cases hfront : front.find? p with
  | none =>
      rw [hfront, Option.none_or] at hfound
      exact hfound
  | some item =>
      rw [hfront, Option.some_or] at hfound
      exact absurd (List.mem_of_find?_eq_some hfront) (hback item hfound.symm)

theorem find?_congr_of_mem {q : α → Bool} (hsame : ∀ item ∈ items, p item = q item) :
    items.find? p = items.find? q := by
  induction items with
  | nil => rfl
  | cons item items ih =>
      have hrest := ih fun later hlater => hsame later (List.mem_cons_of_mem _ hlater)
      rw [List.find?_cons, List.find?_cons, hsame item List.mem_cons_self, hrest]

end ThroughFirst

variable {candidate : List String} {candidates : List (List String)}

namespace DirectoryTree

variable (tree : DirectoryTree) (supports : List String → PyResult Bool)

def hasMarker (markers : List String) (candidate : List String) : Bool :=
  markers.any fun marker => tree.pathExists (candidate ++ [marker])

def probeAncestors (path : List String) : List (List String) :=
  let ancestors := pathAncestors path
  let boundaryIndex :=
    (ancestors.findIdx? (tree.hasMarker (vcMarkers ++ ideMarkers ++ [suitDirectory]))).getD
      (ancestors.length - 1)
  ancestors.take (boundaryIndex + 1)

/-- The first candidate which providers support; a `ValueError` says that none does. -/
def nearestSupported : List (List String) → PyResult (Option (List String))
  | [] => pure none
  | candidate :: candidates =>
      match supports candidate with
      | .ok true => pure (some candidate)
      | .ok false => nearestSupported candidates
      | .error (.valueError _) => nearestSupported candidates
      | .error exception => .error exception

def selectRoot (candidates : List (List String)) (path : List String) :
    PyResult (List String) := do
  match ← nearestSupported supports candidates with
  | some candidate => pure candidate
  | none =>
      match candidates.find? (tree.hasMarker vcMarkers) with
      | some candidate => pure candidate
      | none =>
          match candidates.find? fun candidate =>
              tree.isDirectory (candidate ++ [suitDirectory]) with
          | some candidate => pure candidate
          | none =>
              match candidates.find? (tree.hasMarker ideMarkers) with
              | some candidate => pure candidate
              | none => pure path

/-- `Repository.root_candidate`. -/
def rootCandidate (repositoryPath : List String) : PyResult (List String) :=
  let path := tree.resolve repositoryPath
  if !tree.pathExists path then
    raiseValueError ("repository path does not exist: `" ++ rootText repositoryPath ++ "`")
  else if !tree.isDirectory path then
    raiseValueError ("repository path is not a directory: " ++ rootText repositoryPath)
  else
    tree.selectRoot supports (tree.probeAncestors path) path

instance : LawfulBEq (List String) := inferInstance

/-- The tree with the layout of `ensure_suit_layout`: the directory with its parents, and two
files in it. -/
def withSuitLayout (repositoryRoot : List String) : DirectoryTree where
  resolve := tree.resolve
  pathExists path :=
    tree.pathExists path || path.isPrefixOf (repositoryRoot ++ [suitDirectory]) ||
      decide (path ∈ [repositoryRoot ++ [suitDirectory, "config.json"],
        repositoryRoot ++ [suitDirectory, "state.json"]])
  isDirectory path :=
    tree.isDirectory path || path.isPrefixOf (repositoryRoot ++ [suitDirectory])
  resolve_ancestor := tree.resolve_ancestor
  exists_of_directory := by
    intro path hdirectory
    rw [Bool.or_eq_true] at hdirectory
    cases hdirectory with
    | inl hbefore => simp [tree.exists_of_directory hbefore]
    | inr hnew => simp only [hnew, Bool.or_true, Bool.true_or]
  isDirectory_ancestor := by
    intro path ancestor hdirectory hbelow
    rw [Bool.or_eq_true] at hdirectory ⊢
    cases hdirectory with
    | inl hbefore => exact .inl (tree.isDirectory_ancestor hbefore hbelow)
    | inr hnew =>
        right
        rw [List.isPrefixOf_iff_prefix] at hnew ⊢
        exact hbelow.trans hnew

/-- `Repository.ensure_suit_layout`, where `mkdir` does not raise. -/
def ensureSuitLayout (repositoryRoot : List String) : Option DirectoryTree :=
  let suit := repositoryRoot ++ [suitDirectory]
  if tree.pathExists suit && !tree.isDirectory suit then none
  else some (tree.withSuitLayout repositoryRoot)

variable {tree : DirectoryTree} {supports : List String → PyResult Bool}

def isBoundary (tree : DirectoryTree) : List String → Bool :=
  tree.hasMarker (vcMarkers ++ ideMarkers ++ [suitDirectory])

theorem probeAncestors_eq (path : List String) :
    tree.probeAncestors path = throughFirst tree.isBoundary (pathAncestors path) :=
  take_findIdx?_eq (pathAncestors path)

variable {back front : List (List String)}

/-! ## The search from below -/

theorem nearestSupported_of_append {found : Option (List String)}
    (hfound : nearestSupported supports (front ++ back) = .ok found)
    (hback : ∀ candidate, found = some candidate → candidate ∉ front) :
    nearestSupported supports back = .ok found := by
  induction front with
  | nil => exact hfound
  | cons candidate front ih =>
      have hrest : ∀ other, found = some other → other ∉ front :=
        fun other hother hmem => hback other hother (List.mem_cons_of_mem _ hmem)
      rw [List.cons_append, nearestSupported] at hfound
      cases hsupport : supports candidate with
      | ok supported =>
          rw [hsupport] at hfound
          cases supported with
          | true =>
              rw [pure_eq_ok] at hfound
              exact absurd List.mem_cons_self (hback candidate hfound.symm)
          | false => exact ih hfound hrest
      | error exception =>
          rw [hsupport] at hfound
          cases exception with
          | valueError message => exact ih hfound hrest
          | _ => cases hfound

theorem nearestSupported_mem (hfound : nearestSupported supports candidates = .ok (some candidate)) :
    candidate ∈ candidates := by
  by_contra hnot
  rw [← List.append_nil candidates] at hfound
  have hnone := nearestSupported_of_append hfound fun other hother hmem => by
    rw [← Option.some.inj hother] at hmem
    exact hnot hmem
  cases hnone

def markedRoot? (tree : DirectoryTree) (candidates : List (List String)) :
    Option (List String) :=
  (candidates.find? (tree.hasMarker vcMarkers)).or
    ((candidates.find? fun candidate => tree.isDirectory (candidate ++ [suitDirectory])).or
      (candidates.find? (tree.hasMarker ideMarkers)))

theorem selectRoot_of_supported {path : List String}
    (hnearest : nearestSupported supports candidates = .ok (some candidate)) :
    tree.selectRoot supports candidates path = .ok candidate := by
  unfold selectRoot
  rw [hnearest]
  rfl

theorem selectRoot_of_unsupported {path : List String}
    (hnearest : nearestSupported supports candidates = .ok none) :
    tree.selectRoot supports candidates path = .ok ((tree.markedRoot? candidates).getD path) := by
  unfold selectRoot markedRoot?
  rw [hnearest, ok_bind]
  dsimp only
  cases candidates.find? (tree.hasMarker vcMarkers) with
  | some candidate => rfl
  | none =>
      cases candidates.find? fun candidate => tree.isDirectory (candidate ++ [suitDirectory]) with
      | some candidate => rfl
      | none =>
          cases candidates.find? (tree.hasMarker ideMarkers) with
          | some candidate => rfl
          | none => rfl

theorem selectRoot_nearest {path root : List String}
    (hroot : tree.selectRoot supports candidates path = .ok root) :
    ∃ found, nearestSupported supports candidates = .ok found := by
  unfold selectRoot at hroot
  obtain ⟨found, hfound, -⟩ := bind_eq_ok.mp hroot
  exact ⟨found, hfound⟩

theorem markedRoot?_mem (hmarked : tree.markedRoot? candidates = some candidate) :
    candidate ∈ candidates := by
  unfold markedRoot? at hmarked
  rw [Option.or_eq_some_iff, Option.or_eq_some_iff] at hmarked
  rcases hmarked with hvc | ⟨-, hsuit | ⟨-, hide⟩⟩
  · exact List.mem_of_find?_eq_some hvc
  · exact List.mem_of_find?_eq_some hsuit
  · exact List.mem_of_find?_eq_some hide

theorem markedRoot?_of_append {found : Option (List String)}
    (hfound : tree.markedRoot? (front ++ back) = found)
    (hback : ∀ candidate, found = some candidate → candidate ∉ front) :
    tree.markedRoot? back = found := by
  have hfind : ∀ p : List String → Bool,
      (∀ candidate, (front ++ back).find? p = some candidate → found = some candidate) →
        back.find? p = (front ++ back).find? p := by
    intro p hselected
    apply find?_of_append rfl
    intro candidate heq
    exact hback candidate (hselected candidate heq)
  unfold markedRoot? at hfound ⊢
  cases hvc : (front ++ back).find? (tree.hasMarker vcMarkers) with
  | some candidate =>
      rw [hvc, Option.some_or] at hfound
      rw [hfind _ fun one hone => by rw [← hfound, ← hone, hvc], hvc, Option.some_or]
      exact hfound
  | none =>
      rw [hvc, Option.none_or] at hfound
      rw [hfind _ fun one hone => by simp [hvc] at hone, hvc, Option.none_or]
      cases hsuit : (front ++ back).find? fun candidate =>
          tree.isDirectory (candidate ++ [suitDirectory]) with
      | some candidate =>
          rw [hsuit, Option.some_or] at hfound
          rw [hfind _ fun one hone => by rw [← hfound, ← hone, hsuit], hsuit, Option.some_or]
          exact hfound
      | none =>
          rw [hsuit, Option.none_or] at hfound
          rw [hfind _ fun one hone => by simp [hsuit] at hone, hsuit, Option.none_or,
            hfind _ fun one hone => by rw [← hfound, ← hone]]
          exact hfound

theorem selectRoot_mem {path root : List String}
    (hroot : tree.selectRoot supports candidates path = .ok root) :
    root ∈ candidates ∨ root = path := by
  obtain ⟨found, hnearest⟩ := selectRoot_nearest hroot
  cases found with
  | some candidate =>
      rw [selectRoot_of_supported hnearest] at hroot
      rw [← Except.ok.inj hroot]
      exact .inl (nearestSupported_mem hnearest)
  | none =>
      rw [selectRoot_of_unsupported hnearest] at hroot
      cases hmarked : tree.markedRoot? candidates with
      | some candidate =>
          rw [hmarked, Option.getD_some] at hroot
          rw [← Except.ok.inj hroot]
          exact .inl (markedRoot?_mem hmarked)
      | none =>
          rw [hmarked, Option.getD_none] at hroot
          exact .inr (Except.ok.inj hroot).symm

theorem selectRoot_of_append {path other root : List String}
    (hroot : tree.selectRoot supports (front ++ back) path = .ok root) (hback : root ∉ front)
    (hpath : root ≠ path) : tree.selectRoot supports back other = .ok root := by
  obtain ⟨found, hnearest⟩ := selectRoot_nearest hroot
  cases found with
  | some candidate =>
      rw [selectRoot_of_supported hnearest] at hroot
      have hrest := nearestSupported_of_append hnearest fun one hone => by
        rw [← Option.some.inj hone, Except.ok.inj hroot]
        exact hback
      rw [selectRoot_of_supported hrest]
      exact hroot
  | none =>
      rw [selectRoot_of_unsupported hnearest] at hroot
      have hrest := nearestSupported_of_append hnearest fun one hone => by cases hone
      rw [selectRoot_of_unsupported hrest]
      cases hmarked : tree.markedRoot? (front ++ back) with
      | some candidate =>
          rw [hmarked, Option.getD_some] at hroot
          have hselected := markedRoot?_of_append hmarked fun one hone => by
            rw [← Option.some.inj hone, Except.ok.inj hroot]
            exact hback
          rw [hselected, Option.getD_some]
          exact hroot
      | none =>
          rw [hmarked, Option.getD_none] at hroot
          exact absurd (Except.ok.inj hroot).symm hpath

theorem rootCandidate_ok {repositoryPath root : List String}
    (hroot : tree.rootCandidate supports repositoryPath = .ok root) :
    tree.isDirectory (tree.resolve repositoryPath) = true ∧
      tree.selectRoot supports (tree.probeAncestors (tree.resolve repositoryPath))
        (tree.resolve repositoryPath) = .ok root := by
  unfold rootCandidate at hroot
  cases hexists : tree.pathExists (tree.resolve repositoryPath) with
  | false => simp [hexists] at hroot
  | true =>
      cases hdirectory : tree.isDirectory (tree.resolve repositoryPath) with
      | false => simp [hexists, hdirectory] at hroot
      | true =>
          simp only [hexists, hdirectory, Bool.not_true, Bool.false_eq_true, if_false] at hroot
          exact ⟨rfl, hroot⟩

theorem rootCandidate_of_directory {path : List String} (hresolved : tree.resolve path = path)
    (hdirectory : tree.isDirectory path = true) :
    tree.rootCandidate supports path =
      tree.selectRoot supports (tree.probeAncestors path) path := by
  unfold rootCandidate
  simp [hresolved, tree.exists_of_directory hdirectory, hdirectory]

theorem rootCandidate_between {repositoryPath root between : List String}
    (hroot : tree.rootCandidate supports repositoryPath = .ok root)
    (habove : root <+: between) (hbelow : between <+: tree.resolve repositoryPath) :
    tree.rootCandidate supports between = .ok root := by
  obtain ⟨hdirectory, hselect⟩ := rootCandidate_ok hroot
  have hresolved := tree.resolve_ancestor hbelow
  have hbetween := tree.isDirectory_ancestor hdirectory hbelow
  rw [rootCandidate_of_directory hresolved hbetween]
  by_cases hsame : between = tree.resolve repositoryPath
  · rw [hsame]
    exact hselect
  have hpath : root ≠ tree.resolve repositoryPath := by
    intro heq
    rw [heq] at habove
    exact hsame (hbelow.eq_of_length_le habove.length_le)
  obtain ⟨below, hancestors, hlow⟩ := pathAncestors_of_below hbelow
  have hback : root ∉ below := fun hmem => hlow root hmem habove
  have hcandidate := (selectRoot_mem hselect).resolve_right hpath
  rw [probeAncestors_eq] at hselect hcandidate ⊢
  rw [hancestors] at hselect hcandidate
  -- a marker below the directory would end the search before the root
  have hunmarked : ∀ one ∈ below, tree.isBoundary one = false := by
    intro one hone
    by_contra hmarked
    rw [Bool.not_eq_false] at hmarked
    rw [throughFirst_append_of_mem hone hmarked] at hcandidate
    exact hback (mem_of_mem_throughFirst hcandidate)
  rw [throughFirst_append hunmarked] at hselect
  exact selectRoot_of_append hselect hback hpath

/-! ## The marker which opening writes -/

section SuitLayout

variable {root : List String} (hroot : tree.isDirectory root = true)
include hroot

theorem pathExists_withSuitLayout {marker : String}
    (hmarker : marker ∈ vcMarkers ++ ideMarkers ++ [suitDirectory])
    (hother : candidate = root → marker ≠ suitDirectory) :
    (tree.withSuitLayout root).pathExists (candidate ++ [marker]) =
      tree.pathExists (candidate ++ [marker]) := by
  have hfiles : candidate ++ [marker] ∉ [root ++ [suitDirectory, "config.json"],
      root ++ [suitDirectory, "state.json"]] := by
    intro hmem
    have hlast : (candidate ++ [marker]).getLast? ∈ [some "config.json", some "state.json"] := by
      simp only [List.mem_cons, List.not_mem_nil, or_false] at hmem ⊢
      cases hmem with
      | inl hconfig => simp [hconfig]
      | inr hstate => simp [hstate]
    rw [List.getLast?_concat] at hlast
    simp only [List.mem_cons, Option.some.injEq, List.not_mem_nil, or_false] at hlast
    cases hlast with
    | inl hconfig =>
        rw [hconfig] at hmarker
        exact absurd hmarker (by decide)
    | inr hstate =>
        rw [hstate] at hmarker
        exact absurd hmarker (by decide)
  cases hexists : tree.pathExists (candidate ++ [marker]) with
  | true => simp [withSuitLayout, hexists]
  | false =>
      have hnot : (candidate ++ [marker]).isPrefixOf (root ++ [suitDirectory]) = false := by
        by_contra hbelow
        rw [Bool.not_eq_false, List.isPrefixOf_iff_prefix, List.prefix_concat_iff] at hbelow
        cases hbelow with
        | inl hsame =>
            have hparts := List.append_inj' hsame rfl
            exact hother hparts.1 (List.cons.inj hparts.2).1
        | inr hinside =>
            have hdirectory := tree.isDirectory_ancestor hroot hinside
            rw [tree.exists_of_directory hdirectory] at hexists
            cases hexists
      simp only [withSuitLayout, hexists, hnot, decide_eq_false hfiles, Bool.or_self]

theorem hasMarker_withSuitLayout {markers : List String}
    (hmarkers : markers ⊆ vcMarkers ++ ideMarkers ++ [suitDirectory])
    (hother : candidate = root → suitDirectory ∉ markers) :
    (tree.withSuitLayout root).hasMarker markers candidate = tree.hasMarker markers candidate := by
  unfold hasMarker
  apply Bool.eq_iff_iff.mpr
  rw [List.any_eq_true, List.any_eq_true]
  apply exists_congr
  intro marker
  apply and_congr_right
  intro hmarker
  rw [pathExists_withSuitLayout hroot (hmarkers hmarker)]
  rintro hcandidate rfl
  exact hother hcandidate hmarker

theorem isDirectory_withSuitLayout (hother : candidate ≠ root) :
    (tree.withSuitLayout root).isDirectory (candidate ++ [suitDirectory]) =
      tree.isDirectory (candidate ++ [suitDirectory]) := by
  cases hdirectory : tree.isDirectory (candidate ++ [suitDirectory]) with
  | true => simp [withSuitLayout, hdirectory]
  | false =>
      have hnot : (candidate ++ [suitDirectory]).isPrefixOf (root ++ [suitDirectory]) = false := by
        by_contra hbelow
        rw [Bool.not_eq_false, List.isPrefixOf_iff_prefix, List.prefix_concat_iff] at hbelow
        cases hbelow with
        | inl hsame => exact hother (List.append_inj' hsame rfl).1
        | inr hinside =>
            rw [tree.isDirectory_ancestor hroot hinside] at hdirectory
            cases hdirectory
      simp [withSuitLayout, hdirectory, hnot]

theorem isBoundary_withSuitLayout (hother : candidate ≠ root) :
    (tree.withSuitLayout root).isBoundary candidate = tree.isBoundary candidate :=
  hasMarker_withSuitLayout hroot (List.Subset.refl _) fun hsame => absurd hsame hother

theorem markedRoot?_withSuitLayout (hothers : root ∉ candidates) :
    (tree.withSuitLayout root).markedRoot? candidates = tree.markedRoot? candidates := by
  have hmarkers : ∀ markers, markers ⊆ vcMarkers ++ ideMarkers ++ [suitDirectory] →
      candidates.find? ((tree.withSuitLayout root).hasMarker markers) =
        candidates.find? (tree.hasMarker markers) := by
    intro markers hmarkers
    apply find?_congr_of_mem
    intro candidate hcandidate
    apply hasMarker_withSuitLayout hroot hmarkers
    rintro rfl
    exact absurd hcandidate hothers
  have hsuit : (candidates.find? fun candidate =>
        (tree.withSuitLayout root).isDirectory (candidate ++ [suitDirectory])) =
      candidates.find? fun candidate => tree.isDirectory (candidate ++ [suitDirectory]) := by
    apply find?_congr_of_mem
    intro candidate hcandidate
    apply isDirectory_withSuitLayout hroot
    rintro rfl
    exact hothers hcandidate
  unfold markedRoot?
  rw [hmarkers vcMarkers (by decide), hmarkers ideMarkers (by decide), hsuit]

theorem nearestSupported_withSuitLayout (hsupported : supports root = .ok true)
    {ancestors : List (List String)} (hmem : root ∈ throughFirst tree.isBoundary ancestors) :
    nearestSupported supports (throughFirst (tree.withSuitLayout root).isBoundary ancestors) =
        nearestSupported supports (throughFirst tree.isBoundary ancestors) ∧
      nearestSupported supports (throughFirst tree.isBoundary ancestors) ≠ .ok none := by
  induction ancestors with
  | nil => cases hmem
  | cons candidate ancestors ih =>
      by_cases hsame : candidate = root
      · have hhead : ∀ p : List String → Bool,
            nearestSupported supports (throughFirst p (candidate :: ancestors)) =
              .ok (some root) := by
          intro p
          unfold throughFirst
          cases p candidate with
          | true => simp [nearestSupported, hsame, hsupported]
          | false => simp [nearestSupported, hsame, hsupported]
        rw [hhead, hhead]
        simp
      · have hboundary := isBoundary_withSuitLayout hroot hsame
        unfold throughFirst at hmem ⊢
        rw [hboundary]
        cases hvalue : tree.isBoundary candidate with
        | true =>
            rw [hvalue] at hmem
            simp only [if_true, List.mem_singleton] at hmem
            exact absurd hmem.symm hsame
        | false =>
            simp only [hvalue, Bool.false_eq_true, if_false, List.mem_cons] at hmem ⊢
            have hrest := ih (hmem.resolve_left fun heq => hsame heq.symm)
            unfold nearestSupported
            cases hsupport : supports candidate with
            | ok supported =>
                cases supported with
                | true => simp
                | false => exact hrest
            | error exception =>
                cases exception with
                | valueError message => exact hrest
                | _ => simp

theorem selectRoot_withSuitLayout (hsupported : supports root = .ok true) (path : List String) :
    (tree.withSuitLayout root).selectRoot supports
        ((tree.withSuitLayout root).probeAncestors path) path =
      tree.selectRoot supports (tree.probeAncestors path) path := by
  rw [probeAncestors_eq, probeAncestors_eq]
  by_cases hmem : root ∈ throughFirst tree.isBoundary (pathAncestors path)
  · have hnearest := nearestSupported_withSuitLayout hroot hsupported hmem
    cases hbefore : nearestSupported supports
        (throughFirst tree.isBoundary (pathAncestors path)) with
    | error exception =>
        rw [hbefore] at hnearest
        unfold selectRoot
        rw [hnearest.1, hbefore]
        rfl
    | ok found =>
        cases found with
        | none => exact absurd hbefore hnearest.2
        | some candidate =>
            rw [hbefore] at hnearest
            rw [selectRoot_of_supported hnearest.1, selectRoot_of_supported hbefore]
  · have hprobes : throughFirst (tree.withSuitLayout root).isBoundary (pathAncestors path) =
        throughFirst tree.isBoundary (pathAncestors path) := by
      apply throughFirst_congr
      intro candidate hcandidate
      apply isBoundary_withSuitLayout hroot
      rintro rfl
      exact hmem hcandidate
    rw [hprobes]
    cases hnearest : nearestSupported supports
        (throughFirst tree.isBoundary (pathAncestors path)) with
    | error exception =>
        unfold selectRoot
        rw [hnearest]
        rfl
    | ok found =>
        cases found with
        | some candidate =>
            rw [selectRoot_of_supported hnearest, selectRoot_of_supported hnearest]
        | none =>
            rw [selectRoot_of_unsupported hnearest, selectRoot_of_unsupported hnearest,
              markedRoot?_withSuitLayout hroot hmem]

theorem rootCandidate_withSuitLayout (hsupported : supports root = .ok true)
    {path : List String} (hdirectory : tree.isDirectory (tree.resolve path) = true) :
    (tree.withSuitLayout root).rootCandidate supports path =
      tree.rootCandidate supports path := by
  have hexists := tree.exists_of_directory hdirectory
  have hafter : (tree.withSuitLayout root).isDirectory (tree.resolve path) = true := by
    simp [withSuitLayout, hdirectory]
  have hafterExists := (tree.withSuitLayout root).exists_of_directory hafter
  have hresolve : (tree.withSuitLayout root).resolve path = tree.resolve path := rfl
  unfold rootCandidate
  simp only [hresolve, hafterExists, hafter, hexists, hdirectory, Bool.not_true,
    Bool.false_eq_true, if_false]
  exact selectRoot_withSuitLayout hroot hsupported (tree.resolve path)

end SuitLayout

theorem withSuitLayout_of_ensured {after : DirectoryTree} {root : List String}
    (hensured : tree.ensureSuitLayout root = some after) : after = tree.withSuitLayout root := by
  unfold ensureSuitLayout at hensured
  dsimp only at hensured
  split at hensured
  · cases hensured
  · exact (Option.some.inj hensured).symm

/-- The root lies on the path from the start upwards. -/
theorem prefix_of_rootCandidate {supports : List String → PyResult Bool}
    {path root : List String} (hroot : tree.rootCandidate supports path = .ok root) :
    root <+: tree.resolve path := by
  obtain ⟨-, hselect⟩ := rootCandidate_ok hroot
  cases selectRoot_mem hselect with
  | inl hcandidate =>
      rw [probeAncestors_eq] at hcandidate
      exact mem_pathAncestors.mp (mem_of_mem_throughFirst hcandidate)
  | inr hsame => rw [hsame]

/-- The roots of a tree are stable: from every directory between a root and the start, the
root itself among them, and under the layouts which opening supported roots writes. -/
theorem roots_stable (tree : DirectoryTree) (supports : List String → PyResult Bool) :
    (∀ path root, tree.rootCandidate supports path = .ok root →
      root <+: tree.resolve path ∧
        ∀ between, root <+: between → between <+: tree.resolve path →
          tree.rootCandidate supports between = .ok root) ∧
    (∀ root after, tree.isDirectory root = true → supports root = .ok true →
      tree.ensureSuitLayout root = some after →
        ∀ path, tree.isDirectory (tree.resolve path) = true →
          after.rootCandidate supports path = tree.rootCandidate supports path) := by
  constructor
  · intro path root hroot
    refine ⟨prefix_of_rootCandidate hroot, ?_⟩
    intro between habove hbelow
    exact rootCandidate_between hroot habove hbelow
  · intro root after hdirectory hsupported hensured path hpath
    rw [withSuitLayout_of_ensured hensured]
    exact rootCandidate_withSuitLayout hdirectory hsupported hpath

namespace Sample

def checkout : DirectoryTree where
  resolve path := path
  pathExists path := path.isPrefixOf ["w", "app", "src"] || path.isPrefixOf ["w", ".git"]
  isDirectory path := path.isPrefixOf ["w", "app", "src"] || path.isPrefixOf ["w", ".git"]
  resolve_ancestor _ := rfl
  exists_of_directory hdirectory := hdirectory
  isDirectory_ancestor := by
    intro path ancestor hdirectory hbelow
    simp only [Bool.or_eq_true, List.isPrefixOf_iff_prefix] at hdirectory ⊢
    cases hdirectory with
    | inl hsource => exact .inl (hbelow.trans hsource)
    | inr hgit => exact .inr (hbelow.trans hgit)

def checkoutSupports (path : List String) : PyResult Bool :=
  if path = ["w", "app", "src"] then raiseValueError "no manifest" else .ok (path = ["w", "app"])

end Sample

theorem roots_stable_checkout :
    Sample.checkout.rootCandidate Sample.checkoutSupports ["w", "app"] = .ok ["w", "app"] ∧
      (Sample.checkout.withSuitLayout ["w", "app"]).rootCandidate Sample.checkoutSupports ["w"] =
        Sample.checkout.rootCandidate Sample.checkoutSupports ["w"] := by
  have hstable := roots_stable Sample.checkout Sample.checkoutSupports
  constructor
  · exact (hstable.1 ["w", "app", "src"] ["w", "app"] (by decide)).2 ["w", "app"] (by decide)
      (by decide)
  · exact hstable.2 ["w", "app"] _ (by decide) (by decide) rfl ["w"] (by decide)

/-- A directory tree gives the environment which the registry of workspaces assumes. -/
def environment (tree : DirectoryTree) (supports : List String → PyResult Bool)
    (construct : List String → PyResult Unit) : RepositoryEnvironment where
  rootCandidate := tree.rootCandidate supports
  supported root := decide (supports root = .ok true)
  construct := construct
  stable := by
    intro path root hroot
    exact rootCandidate_between hroot List.prefix_rfl (prefix_of_rootCandidate hroot)

end DirectoryTree

end SuitCode
