import SuitCode.Library.GlobPatterns
import SuitCode.NpmAnalyses

/-!
# Packages of a workspace and packages of their own

A package directory is attached by itself unless a pattern of a manifest above it matches
its path from the right.  The workspace loader lists the directories which the patterns
match from the root.  A directory which only the first match finds is lost, and one which
only the second finds is attached twice.
-/

namespace SuitCode

open PosixText KeyedList ExceptList GlobPatterns

/-! ## The tree -/

structure ListedManifest extends PackageJsonManifest where
  workspaces : List String := []
  relative :
    ∀ pattern ∈ workspaces, rootOf pattern = "" ∧ segments pattern ≠ [] := by decide

/-- The directories of a repository which hold a manifest. -/
structure PackageTree where
  packages : List (List String × ListedManifest)
  distinct : (packages.map Prod.fst).Nodup

def ignoredPackageDirs : List String :=
  ["node_modules", ".git", ".suit", "dist", "build", ".next"]

variable {before : List (List String × ListedManifest)} {package root : List String}

namespace PackageTree

/-! ## The workspace loader -/

/-- `root.glob(pattern)`, of which only the directories with a manifest are used. -/
def globbed (tree : PackageTree) (root : List String) (pattern : String) :
    PyResult (List (List String × ListedManifest)) :=
  if (segments pattern).any fun segment => segment ≠ "**" && containsText segment "**" then
    raiseValueError "Invalid pattern: '**' can only be an entire path component"
  else
    .ok (sortedBy Prod.fst (tree.packages.filter fun package =>
      (FileTree.relativeTo root package.1).any (matchFromRoot (segments pattern))))

/-- One directory of the loop of `discover`. -/
def addWorkspacePackage (found : List PackageJsonWorkspacePackage)
    (package : List String × ListedManifest) : PyResult (List PackageJsonWorkspacePackage) :=
  if package.1 ∈ found.map PackageJsonWorkspacePackage.packageDir then
    raiseValueError
      ("duplicate workspace package path discovered: /" ++ join "/" package.1)
  else
    match package.2.name with
    | none =>
        raiseValueError
          ("workspace package missing name: /" ++ join "/" (package.1 ++ ["package.json"]))
    | some name =>
        match found.find? fun other => other.manifest.name = some name with
        | some other =>
            raiseValueError
              ("duplicate workspace package name '" ++ name ++ "': /" ++
                join "/" (package.1 ++ ["package.json"]) ++ " and /" ++
                  join "/" (other.packageDir ++ ["package.json"]))
        | none => .ok (found ++ [⟨package.1, package.2.toPackageJsonManifest⟩])

/-- `PackageJsonWorkspaceDiscoverer.discover`. -/
def discoverWorkspace (tree : PackageTree) (root : List String) (manifest : ListedManifest) :
    PyResult (List PackageJsonWorkspacePackage) :=
  if manifest.workspaces = [] then
    raiseValueError
      ("npm workspace root has no 'workspaces': /" ++ join "/" (root ++ ["package.json"]))
  else do
    let found ← manifest.workspaces.foldlM
      (fun found pattern => do
        let directories ← tree.globbed root pattern
        directories.foldlM addWorkspacePackage found)
      []
    pure (sortedBy PackageJsonWorkspacePackage.packageDir found)

/-- `PackageJsonWorkspaceLoader.load` for a directory of the tree. -/
def loadWorkspace (tree : PackageTree) (root : List String) (manifest : ListedManifest) :
    PyResult PackageJsonWorkspace := do
  let packages ←
    if manifest.workspaces ≠ [] then tree.discoverWorkspace root manifest
    else pure [⟨root, manifest.toPackageJsonManifest⟩]
  pure ⟨root, manifest.toPackageJsonManifest, packages⟩

/-! ## The attachments -/

/-- The manifests which the provider loads, by their directories. -/
def visible (tree : PackageTree) : List (List String × ListedManifest) :=
  sortedBy Prod.fst (tree.packages.filter fun package =>
    !package.1.any fun part => lowerText part ∈ ignoredPackageDirs)

def coveredByWorkspace (packageRoot : List String)
    (manifests : List (List String × ListedManifest)) : Bool :=
  manifests.any fun candidate =>
    candidate.1 ≠ packageRoot &&
      (FileTree.relativeTo candidate.1 packageRoot).any fun relative =>
        candidate.2.workspaces.any fun pattern => matchFromRight (segments pattern) relative

/-- The loop of `discover_attachments`; a directory which does not load is passed over. -/
def attachPackages (tree : PackageTree) (manifests : List (List String × ListedManifest)) :
    List (List String × ListedManifest) → PyResult (List (List String))
  | [] => .ok []
  | (packageRoot, manifest) :: rest =>
      if coveredByWorkspace packageRoot manifests then
        tree.attachPackages manifests rest
      else
        match tree.loadWorkspace packageRoot manifest with
        | .ok _ => do
            let attachments ← tree.attachPackages manifests rest
            pure (packageRoot :: attachments)
        | .error (.valueError _) => tree.attachPackages manifests rest
        | .error exception => .error exception

/-- `NPMProvider.discover_attachments`, the attachment roots. -/
def discoverAttachments (tree : PackageTree) : PyResult (List (List String)) :=
  tree.attachPackages tree.visible tree.visible

/-! ## What the loader accepts -/

def reached (tree : PackageTree) (root : List String) (pattern : String) :
    List (List String × ListedManifest) :=
  tree.packages.filter fun package =>
    (FileTree.relativeTo root package.1).any (matchFromRoot (segments pattern))

def members (tree : PackageTree) (root : List String) (manifest : ListedManifest) :
    List (List String × ListedManifest) :=
  manifest.workspaces.flatMap (tree.reached root)

/-- The patterns are ones for directories, and give named packages of different names,
each of them once. -/
structure Loadable (tree : PackageTree) (root : List String) (manifest : ListedManifest) :
    Prop where
  listed : manifest.workspaces ≠ []
  whole :
    ∀ pattern ∈ manifest.workspaces, ∀ segment ∈ segments pattern,
      containsText segment "**" = true → segment = "**"
  once : ((tree.members root manifest).map Prod.fst).Nodup
  named : ∀ package ∈ tree.members root manifest, package.2.name ≠ none
  distinct : ((tree.members root manifest).map fun package => package.2.name).Nodup

structure Collected (packages : List (List String × ListedManifest)) : Prop where
  once : (packages.map Prod.fst).Nodup
  named : ∀ package ∈ packages, package.2.name ≠ none
  distinct : (packages.map fun package => package.2.name).Nodup

def asPackages (packages : List (List String × ListedManifest)) :
    List PackageJsonWorkspacePackage :=
  packages.map fun package => ⟨package.1, package.2.toPackageJsonManifest⟩

theorem Collected.of_append {after : List (List String × ListedManifest)}
    (hcollected : Collected (before ++ after)) : Collected before := by
  constructor
  case once =>
    have honce := hcollected.once
    rw [List.map_append] at honce
    exact honce.of_append_left
  case named =>
    intro package hpackage
    exact hcollected.named package (List.mem_append_left _ hpackage)
  case distinct =>
    have hdistinct := hcollected.distinct
    rw [List.map_append] at hdistinct
    exact hdistinct.of_append_left

theorem collected_perm {left right : List (List String × ListedManifest)}
    (hperm : left.Perm right) : Collected left ↔ Collected right := by
  constructor
  · intro hleft
    constructor
    case once => exact (hperm.map Prod.fst).nodup_iff.mp hleft.once
    case named =>
      intro package hpackage
      exact hleft.named package (hperm.mem_iff.mpr hpackage)
    case distinct => exact (hperm.map fun package => package.2.name).nodup_iff.mp hleft.distinct
  · intro hright
    constructor
    case once => exact (hperm.map Prod.fst).nodup_iff.mpr hright.once
    case named =>
      intro package hpackage
      exact hright.named package (hperm.mem_iff.mp hpackage)
    case distinct => exact (hperm.map fun package => package.2.name).nodup_iff.mpr hright.distinct

theorem addWorkspacePackage_eq_ok_iff {package : List String × ListedManifest}
    {result : List PackageJsonWorkspacePackage} (hbefore : Collected before) :
    addWorkspacePackage (asPackages before) package = .ok result ↔
      Collected (before ++ [package]) ∧ result = asPackages (before ++ [package]) := by
  have hdirs : (asPackages before).map PackageJsonWorkspacePackage.packageDir =
      before.map Prod.fst := by
    simp [asPackages, Function.comp_def]
  have hnext : Collected (before ++ [package]) ↔
      package.1 ∉ before.map Prod.fst ∧ package.2.name ≠ none ∧
        package.2.name ∉ before.map fun other => other.2.name := by
    constructor
    · intro hcollected
      have honce := hcollected.once
      have hdistinct := hcollected.distinct
      rw [List.map_append, List.map_singleton, List.nodup_append_comm] at honce hdistinct
      refine ⟨(List.nodup_cons.mp honce).1, ?_, (List.nodup_cons.mp hdistinct).1⟩
      exact hcollected.named package (List.mem_append_right _ (List.mem_singleton_self _))
    · rintro ⟨hdir, hname, hfresh⟩
      constructor
      case once =>
        rw [List.map_append, List.map_singleton, List.nodup_append_comm]
        exact List.nodup_cons.mpr ⟨hdir, hbefore.once⟩
      case named =>
        intro other hother
        rw [List.mem_append, List.mem_singleton] at hother
        cases hother with
        | inl hmem => exact hbefore.named other hmem
        | inr heq =>
            rw [heq]
            exact hname
      case distinct =>
        rw [List.map_append, List.map_singleton, List.nodup_append_comm]
        exact List.nodup_cons.mpr ⟨hfresh, hbefore.distinct⟩
  rw [hnext]
  unfold addWorkspacePackage
  rw [hdirs]
  by_cases hdir : package.1 ∈ before.map Prod.fst
  · simp [hdir]
  · rw [if_neg hdir]
    cases hname : package.2.name with
    | none => simp
    | some name =>
        cases hfind : (asPackages before).find? fun other => other.manifest.name = some name with
        | some other =>
            have hmem := List.mem_of_find?_eq_some hfind
            have hsame := List.find?_some hfind
            rcases List.mem_map.mp hmem with ⟨source, hsource, rfl⟩
            have hin : some name ∈ before.map fun other => other.2.name :=
              List.mem_map.mpr ⟨source, hsource, of_decide_eq_true hsame⟩
            simp only [hfind]
            simp [raiseValueError, hin]
        | none =>
            have hnotin : some name ∉ before.map fun other => other.2.name := by
              intro hin
              rcases List.mem_map.mp hin with ⟨source, hsource, heq⟩
              have hnone := List.find?_eq_none.mp hfind
                ⟨source.1, source.2.toPackageJsonManifest⟩ (List.mem_map_of_mem hsource)
              exact hnone (decide_eq_true heq)
            simp only [hfind, Except.ok.injEq]
            constructor
            · intro heq
              refine ⟨⟨hdir, by simp, hnotin⟩, ?_⟩
              rw [← heq]
              simp [asPackages]
            · rintro ⟨-, rfl⟩
              simp [asPackages]

theorem foldlM_addWorkspacePackage_eq_ok_iff {packages : List (List String × ListedManifest)}
    {result : List PackageJsonWorkspacePackage} (hbefore : Collected before) :
    packages.foldlM addWorkspacePackage (asPackages before) = .ok result ↔
      Collected (before ++ packages) ∧ result = asPackages (before ++ packages) := by
  induction packages generalizing before with
  | nil =>
      simp only [List.foldlM_nil, pure_eq_ok, List.append_nil, hbefore, true_and]
      exact eq_comm
  | cons package packages ih =>
      have hcons : before ++ package :: packages = (before ++ [package]) ++ packages := by
        simp
      rw [List.foldlM_cons, bind_eq_ok, hcons]
      constructor
      · rintro ⟨found, hfound, hrest⟩
        rcases (addWorkspacePackage_eq_ok_iff hbefore).mp hfound with ⟨hnext, rfl⟩
        exact (ih hnext).mp hrest
      · rintro ⟨hcollected, hresult⟩
        have hnext := hcollected.of_append
        exact ⟨_, (addWorkspacePackage_eq_ok_iff hbefore).mpr ⟨hnext, rfl⟩,
          (ih hnext).mpr ⟨hcollected, hresult⟩⟩

theorem globbed_eq_ok_iff {tree : PackageTree} {pattern : String}
    {directories : List (List String × ListedManifest)} :
    tree.globbed root pattern = .ok directories ↔
      (∀ segment ∈ segments pattern, containsText segment "**" = true → segment = "**") ∧
        directories = sortedBy Prod.fst (tree.reached root pattern) := by
  unfold globbed reached
  by_cases hwhole : (segments pattern).any fun segment =>
      segment ≠ "**" && containsText segment "**"
  · rw [if_pos hwhole]
    simp only [List.any_eq_true, Bool.and_eq_true, decide_eq_true_eq] at hwhole
    rcases hwhole with ⟨segment, hsegment, hne, hcontains⟩
    constructor
    · intro herror
      cases herror
    · rintro ⟨hall, -⟩
      exact absurd (hall segment hsegment hcontains) hne
  · rw [if_neg hwhole, Except.ok.injEq]
    have hall : ∀ segment ∈ segments pattern, containsText segment "**" = true →
        segment = "**" := by
      intro segment hsegment hcontains
      by_contra hne
      apply hwhole
      rw [List.any_eq_true]
      exact ⟨segment, hsegment, by simp [hne, hcontains]⟩
    constructor
    · intro heq
      exact ⟨hall, heq.symm⟩
    · intro hboth
      exact hboth.2.symm

theorem foldlM_patterns_eq_ok_iff
    {tree : PackageTree} {root : List String} {patterns : List String}
    {before : List (List String × ListedManifest)} {result : List PackageJsonWorkspacePackage}
    (hbefore : Collected before) :
    patterns.foldlM
        (fun found pattern => do
          let directories ← tree.globbed root pattern
          directories.foldlM addWorkspacePackage found)
        (asPackages before) = .ok result ↔
      (∀ pattern ∈ patterns, ∀ segment ∈ segments pattern,
          containsText segment "**" = true → segment = "**") ∧
        Collected (before ++ patterns.flatMap fun pattern =>
          sortedBy Prod.fst (tree.reached root pattern)) ∧
          result = asPackages (before ++ patterns.flatMap fun pattern =>
            sortedBy Prod.fst (tree.reached root pattern)) := by
  induction patterns generalizing before with
  | nil =>
      simp only [List.foldlM_nil, pure_eq_ok, List.flatMap_nil, List.append_nil, hbefore,
        List.not_mem_nil, false_implies, implies_true, true_and]
      exact eq_comm
  | cons pattern patterns ih =>
      rw [List.foldlM_cons, bind_eq_ok, List.flatMap_cons, ← List.append_assoc,
        List.forall_mem_cons]
      constructor
      · rintro ⟨found, hfound, hrest⟩
        rcases bind_eq_ok.mp hfound with ⟨directories, hdirectories, hadded⟩
        rcases globbed_eq_ok_iff.mp hdirectories with ⟨hwhole, rfl⟩
        rcases (foldlM_addWorkspacePackage_eq_ok_iff hbefore).mp hadded with ⟨hnext, rfl⟩
        rcases (ih hnext).mp hrest with ⟨hpatterns, hresult⟩
        exact ⟨⟨hwhole, hpatterns⟩, hresult⟩
      · rintro ⟨⟨hwhole, hpatterns⟩, hcollected, hresult⟩
        have hnext := hcollected.of_append
        refine ⟨_, bind_eq_ok.mpr ⟨_, globbed_eq_ok_iff.mpr ⟨hwhole, rfl⟩, ?_⟩,
          (ih hnext).mpr ⟨hpatterns, hcollected, hresult⟩⟩
        exact (foldlM_addWorkspacePackage_eq_ok_iff hbefore).mpr ⟨hnext, rfl⟩

theorem members_perm (tree : PackageTree) (root : List String) (patterns : List String) :
    (patterns.flatMap fun pattern => sortedBy Prod.fst (tree.reached root pattern)).Perm
      (patterns.flatMap (tree.reached root)) := by
  induction patterns with
  | nil => exact List.Perm.refl _
  | cons pattern patterns ih =>
      rw [List.flatMap_cons, List.flatMap_cons]
      exact (sortedBy_perm Prod.fst _).append ih

theorem loadable_iff {tree : PackageTree} {manifest : ListedManifest} :
    tree.Loadable root manifest ↔
      manifest.workspaces ≠ [] ∧
        (∀ pattern ∈ manifest.workspaces, ∀ segment ∈ segments pattern,
          containsText segment "**" = true → segment = "**") ∧
          Collected (tree.members root manifest) := by
  constructor
  · intro hload
    exact ⟨hload.listed, hload.whole, hload.once, hload.named, hload.distinct⟩
  · rintro ⟨hlisted, hwhole, hcollected⟩
    exact ⟨hlisted, hwhole, hcollected.once, hcollected.named, hcollected.distinct⟩

theorem discoverWorkspace_iff {tree : PackageTree} {manifest : ListedManifest} :
    (∃ packages, tree.discoverWorkspace root manifest = .ok packages ∧
        package ∈ packages.map PackageJsonWorkspacePackage.packageDir) ↔
      tree.Loadable root manifest ∧ package ∈ (tree.members root manifest).map Prod.fst := by
  have hperm := members_perm tree root manifest.workspaces
  have hempty : Collected [] := ⟨by simp, by simp, by simp⟩
  have hdirs : ∀ packages : List (List String × ListedManifest),
      (asPackages packages).map PackageJsonWorkspacePackage.packageDir =
        packages.map Prod.fst := by
    intro packages
    simp [asPackages, Function.comp_def]
  have hmem : package ∈ ((sortedBy PackageJsonWorkspacePackage.packageDir (asPackages
      (manifest.workspaces.flatMap fun pattern =>
        sortedBy Prod.fst (tree.reached root pattern)))).map
          PackageJsonWorkspacePackage.packageDir) ↔
        package ∈ (tree.members root manifest).map Prod.fst := by
    rw [((sortedBy_perm PackageJsonWorkspacePackage.packageDir _).map
      PackageJsonWorkspacePackage.packageDir).mem_iff, hdirs, (hperm.map Prod.fst).mem_iff]
    rfl
  rw [loadable_iff]
  unfold discoverWorkspace
  by_cases hlisted : manifest.workspaces = []
  · rw [if_pos hlisted]
    constructor
    · rintro ⟨packages, herror, -⟩
      cases herror
    · rintro ⟨⟨hne, -⟩, -⟩
      exact absurd hlisted hne
  · rw [if_neg hlisted]
    simp only [bind_eq_ok, pure_eq_ok]
    have hfold := fun result =>
      @foldlM_patterns_eq_ok_iff tree root manifest.workspaces [] result hempty
    constructor
    · rintro ⟨packages, ⟨found, hfound, rfl⟩, hpackage⟩
      rcases (hfold found).mp hfound with ⟨hwhole, hcollected, rfl⟩
      exact ⟨⟨hlisted, hwhole, (collected_perm hperm).mp hcollected⟩, hmem.mp hpackage⟩
    · rintro ⟨⟨-, hwhole, hcollected⟩, hpackage⟩
      refine ⟨_, ⟨_, (hfold _).mpr ⟨hwhole, ?_, rfl⟩, rfl⟩, hmem.mpr hpackage⟩
      exact (collected_perm hperm).mpr hcollected

/-! ## Which directories are attached -/

theorem addWorkspacePackage_raises
    (found : List PackageJsonWorkspacePackage) (package : List String × ListedManifest) :
    Raises (fun exception => ∃ message, exception = PyError.valueError message)
      (addWorkspacePackage found package) := by
  unfold addWorkspacePackage
  split
  · exact raises_error ⟨_, rfl⟩
  · split
    · exact raises_error ⟨_, rfl⟩
    · split
      · exact raises_error ⟨_, rfl⟩
      · exact raises_ok _

theorem discoverWorkspace_raises
    (tree : PackageTree) (root : List String) (manifest : ListedManifest) :
    Raises (fun exception => ∃ message, exception = PyError.valueError message)
      (tree.discoverWorkspace root manifest) := by
  unfold discoverWorkspace
  split
  · exact raises_error ⟨_, rfl⟩
  · apply raises_bind
    · apply raises_foldlM
      intro found pattern hpattern
      apply raises_bind
      · unfold globbed
        split
        · exact raises_error ⟨_, rfl⟩
        · exact raises_ok _
      · intro directories
        apply raises_foldlM
        intro state package hpackage
        exact addWorkspacePackage_raises state package
    · intro found
      exact raises_ok _

theorem loadWorkspace_raises
    (tree : PackageTree) (root : List String) (manifest : ListedManifest) :
    Raises (fun exception => ∃ message, exception = PyError.valueError message)
      (tree.loadWorkspace root manifest) := by
  by_cases hlisted : manifest.workspaces ≠ []
  · simp only [loadWorkspace, if_pos hlisted]
    apply raises_bind (discoverWorkspace_raises tree root manifest)
    intro packages
    exact raises_ok _
  · simp only [loadWorkspace, if_neg hlisted]
    exact raises_ok _

theorem attachPackages_eq_ok
    (tree : PackageTree) (manifests packages : List (List String × ListedManifest)) :
    ∃ attachments, tree.attachPackages manifests packages = .ok attachments ∧
      ∀ root, root ∈ attachments ↔
        ∃ manifest, (root, manifest) ∈ packages ∧ coveredByWorkspace root manifests = false ∧
          ∃ workspace, tree.loadWorkspace root manifest = .ok workspace := by
  induction packages with
  | nil => exact ⟨[], rfl, by simp⟩
  | cons package packages ih =>
      rcases package with ⟨packageRoot, manifest⟩
      rcases ih with ⟨attachments, hattachments, hmem⟩
      unfold attachPackages
      by_cases hcovered : coveredByWorkspace packageRoot manifests = true
      · refine ⟨attachments, by rw [if_pos hcovered, hattachments], ?_⟩
        intro root
        rw [hmem]
        constructor
        · rintro ⟨other, hother, hrest⟩
          exact ⟨other, List.mem_cons_of_mem _ hother, hrest⟩
        · rintro ⟨other, hother, huncovered, hload⟩
          rw [List.mem_cons] at hother
          cases hother with
          | inl heq =>
              cases heq
              rw [hcovered] at huncovered
              cases huncovered
          | inr hin => exact ⟨other, hin, huncovered, hload⟩
      · rw [if_neg hcovered]
        cases hload : tree.loadWorkspace packageRoot manifest with
        | ok workspace =>
            refine ⟨packageRoot :: attachments, by rw [hattachments]; rfl, ?_⟩
            intro root
            rw [List.mem_cons, hmem]
            constructor
            · intro hroot
              cases hroot with
              | inl heq =>
                  subst heq
                  exact ⟨manifest, List.mem_cons_self, by simpa using hcovered, workspace, hload⟩
              | inr hrest =>
                  rcases hrest with ⟨other, hother, hboth⟩
                  exact ⟨other, List.mem_cons_of_mem _ hother, hboth⟩
            · rintro ⟨other, hother, hboth⟩
              rw [List.mem_cons] at hother
              cases hother with
              | inl heq =>
                  cases heq
                  exact Or.inl rfl
              | inr hin => exact Or.inr ⟨other, hin, hboth⟩
        | error exception =>
            rcases loadWorkspace_raises tree packageRoot manifest exception hload with
              ⟨message, rfl⟩
            refine ⟨attachments, hattachments, ?_⟩
            intro root
            rw [hmem]
            constructor
            · rintro ⟨other, hother, hboth⟩
              exact ⟨other, List.mem_cons_of_mem _ hother, hboth⟩
            · rintro ⟨other, hother, huncovered, workspace, hok⟩
              rw [List.mem_cons] at hother
              cases hother with
              | inl heq =>
                  cases heq
                  rw [hload] at hok
                  cases hok
              | inr hin => exact ⟨other, hin, huncovered, workspace, hok⟩

/-! ## The coverage of the packages -/

def Lists (tree : PackageTree) (root package : List String) : Prop :=
  ∃ manifest, (root, manifest) ∈ tree.visible ∧
    ∃ packages, tree.discoverWorkspace root manifest = .ok packages ∧
      package ∈ packages.map PackageJsonWorkspacePackage.packageDir

/-- A directory is passed over as covered exactly when the discoverer of an attached
workspace root lists it. -/
def CoverageExact (tree : PackageTree) : Prop :=
  ∃ attachments, tree.discoverAttachments = .ok attachments ∧
    ∀ package ∈ tree.visible.map Prod.fst,
      (coveredByWorkspace package tree.visible = true ↔
        ∃ root ∈ attachments, root ≠ package ∧ tree.Lists root package)

def Fits (root : List String) (manifest : ListedManifest) (package : List String) : Prop :=
  root ≠ package ∧ ∃ relative, package = root ++ relative ∧
    ∃ pattern ∈ manifest.workspaces, FitsEnd (segments pattern) relative

def Reaches (root : List String) (manifest : ListedManifest) (package : List String) : Prop :=
  root ≠ package ∧ ∃ relative, package = root ++ relative ∧
    ∃ pattern ∈ manifest.workspaces, Spans (segments pattern) relative

/-- Some pattern above the directory fits the end of its path. -/
def FittedIn (tree : PackageTree) (package : List String) : Prop :=
  ∃ root manifest, (root, manifest) ∈ tree.visible ∧ Fits root manifest package

/-- A loadable manifest whose own directory no pattern fits reaches the directory. -/
def ReachedIn (tree : PackageTree) (package : List String) : Prop :=
  ∃ root manifest, (root, manifest) ∈ tree.visible ∧ ¬ tree.FittedIn root ∧
    tree.Loadable root manifest ∧ Reaches root manifest package

theorem any_relativeTo_iff {path : List String} {test : List String → Bool} :
    (FileTree.relativeTo root path).any test = true ↔
      ∃ relative, path = root ++ relative ∧ test relative = true := by
  unfold FileTree.relativeTo
  by_cases hbelow : root.isPrefixOf path = true
  · rw [if_pos hbelow, Option.any_some]
    rcases List.isPrefixOf_iff_prefix.mp hbelow with ⟨relative, rfl⟩
    rw [List.drop_left]
    constructor
    · intro htest
      exact ⟨relative, rfl, htest⟩
    · rintro ⟨other, heq, htest⟩
      rwa [List.append_cancel_left heq]
  · rw [if_neg hbelow]
    constructor
    · intro hfalse
      cases hfalse
    · rintro ⟨relative, rfl, -⟩
      exact absurd (List.isPrefixOf_iff_prefix.mpr (List.prefix_append _ _)) hbelow

theorem coveredByWorkspace_iff {tree : PackageTree} :
    coveredByWorkspace package tree.visible = true ↔ tree.FittedIn package := by
  simp only [coveredByWorkspace, List.any_eq_true, Bool.and_eq_true, decide_eq_true_eq,
    any_relativeTo_iff, matchFromRight_iff, FittedIn, Fits]
  constructor
  · rintro ⟨⟨root, manifest⟩, hmem, hfits⟩
    exact ⟨root, manifest, hmem, hfits⟩
  · rintro ⟨root, manifest, hmem, hfits⟩
    exact ⟨(root, manifest), hmem, hfits⟩

theorem mem_members_iff {tree : PackageTree} {manifest : ListedManifest}
    (hpackage : package ∈ tree.packages.map Prod.fst) (hne : root ≠ package) :
    package ∈ (tree.members root manifest).map Prod.fst ↔ Reaches root manifest package := by
  simp only [members, reached, List.map_flatMap, List.mem_flatMap, List.mem_map,
    List.mem_filter, any_relativeTo_iff, matchFromRoot_iff, Reaches]
  constructor
  · rintro ⟨pattern, hpattern, other, ⟨hother, relative, heq, hspans⟩, rfl⟩
    exact ⟨hne, relative, heq, pattern, hpattern, hspans⟩
  · rintro ⟨-, relative, heq, pattern, hpattern, hspans⟩
    rcases List.mem_map.mp hpackage with ⟨other, hother, rfl⟩
    exact ⟨pattern, hpattern, other, ⟨hother, relative, heq, hspans⟩, rfl⟩

theorem mem_packages_of_visible {tree : PackageTree}
    (hpackage : package ∈ tree.visible.map Prod.fst) :
    package ∈ tree.packages.map Prod.fst := by
  rcases List.mem_map.mp hpackage with ⟨other, hother, rfl⟩
  rw [visible, mem_sortedBy] at hother
  exact List.mem_map_of_mem (List.mem_of_mem_filter hother)

theorem manifest_eq {tree : PackageTree} {left right : ListedManifest}
    (hleft : (root, left) ∈ tree.visible) (hright : (root, right) ∈ tree.visible) :
    left = right := by
  rw [visible, mem_sortedBy] at hleft hright
  have heq := List.inj_on_of_nodup_map tree.distinct (List.mem_of_mem_filter hleft)
    (List.mem_of_mem_filter hright) rfl
  exact congrArg Prod.snd heq

theorem exists_loadWorkspace {tree : PackageTree} {manifest : ListedManifest}
    {packages : List PackageJsonWorkspacePackage} (hlisted : manifest.workspaces ≠ [])
    (hok : tree.discoverWorkspace root manifest = .ok packages) :
    ∃ workspace, tree.loadWorkspace root manifest = .ok workspace := by
  unfold loadWorkspace
  rw [if_pos hlisted, hok]
  exact ⟨_, rfl⟩

theorem listed_iff_reachedIn {tree : PackageTree} {attachments : List (List String)}
    (hattachments : ∀ root, root ∈ attachments ↔
      ∃ manifest, (root, manifest) ∈ tree.visible ∧
        coveredByWorkspace root tree.visible = false ∧
          ∃ workspace, tree.loadWorkspace root manifest = .ok workspace)
    (hpackage : package ∈ tree.visible.map Prod.fst) :
    (∃ root ∈ attachments, root ≠ package ∧ tree.Lists root package) ↔
      tree.ReachedIn package := by
  constructor
  · rintro ⟨root, hroot, hne, manifest, hmanifest, hlists⟩
    rcases (hattachments root).mp hroot with ⟨other, hother, huncovered, -⟩
    have hload := discoverWorkspace_iff.mp hlists
    refine ⟨root, manifest, hmanifest, ?_, hload.1, ?_⟩
    · rw [← coveredByWorkspace_iff, huncovered]
      exact Bool.false_ne_true
    · exact (mem_members_iff (mem_packages_of_visible hpackage) hne).mp hload.2
  · rintro ⟨root, manifest, hmanifest, hunfitted, hload, hreaches⟩
    have hmember :=
      (mem_members_iff (mem_packages_of_visible hpackage) hreaches.1).mpr hreaches
    rcases discoverWorkspace_iff.mpr ⟨hload, hmember⟩ with ⟨packages, hok, hin⟩
    have huncovered : coveredByWorkspace root tree.visible = false := by
      rw [← Bool.not_eq_true, coveredByWorkspace_iff]
      exact hunfitted
    refine ⟨root, (hattachments root).mpr ⟨manifest, hmanifest, huncovered, ?_⟩,
      hreaches.1, manifest, hmanifest, packages, hok, hin⟩
    exact exists_loadWorkspace hload.listed hok

/-- The coverage is exact where the directories which a pattern fits are those which an
attached manifest reaches. -/
theorem coverageExact_iff {tree : PackageTree} :
    tree.CoverageExact ↔
      ∀ package ∈ tree.visible.map Prod.fst,
        tree.FittedIn package ↔ tree.ReachedIn package := by
  rcases tree.attachPackages_eq_ok tree.visible tree.visible with
    ⟨attachments, hok, hattachments⟩
  constructor
  · rintro ⟨others, hothers, hexact⟩
    have heq : others = attachments := by
      rw [discoverAttachments, hok] at hothers
      exact (Except.ok.inj hothers).symm
    subst heq
    intro package hpackage
    rw [← coveredByWorkspace_iff, hexact package hpackage,
      listed_iff_reachedIn hattachments hpackage]
  · intro hagree
    refine ⟨attachments, hok, ?_⟩
    intro package hpackage
    rw [coveredByWorkspace_iff, hagree package hpackage,
      listed_iff_reachedIn hattachments hpackage]

/-- Every repository of valid manifests has its packages covered exactly. -/
def CoverageAlwaysExact : Prop := ∀ tree : PackageTree, tree.CoverageExact

namespace CoverageSample

def manifest (directory : List String) (name : String) : ListedManifest :=
  { path := directory ++ ["package.json"], name := some name }

def rootManifest : ListedManifest :=
  { path := ["package.json"], name := some "root", workspaces := ["packages/*"] }

/-- A workspace with one package, and an example with a `packages` directory of its own. -/
def tree : PackageTree :=
  { packages :=
      [([], rootManifest), (["packages", "a"], manifest ["packages", "a"] "a"),
        (["examples", "packages", "b"], manifest ["examples", "packages", "b"] "b")]
    distinct := by decide }

end CoverageSample

/-- The package below `examples` is passed over as covered and listed by no workspace. -/
theorem coverage_not_always_exact : ¬ CoverageAlwaysExact := by
  intro hall
  rcases hall CoverageSample.tree with ⟨attachments, hok, hexact⟩
  have hroot : CoverageSample.tree.discoverAttachments = .ok [[]] := by
    decide
  rw [hroot, Except.ok.injEq] at hok
  subst hok
  have hcovered : coveredByWorkspace ["examples", "packages", "b"]
      CoverageSample.tree.visible = true := by
    decide
  have hvisible : ["examples", "packages", "b"] ∈
      CoverageSample.tree.visible.map Prod.fst := by
    decide
  rcases (hexact _ hvisible).mp hcovered with ⟨root, hmem, -, manifest, hmanifest, hlists⟩
  have hempty : root = [] := List.mem_singleton.mp hmem
  subst hempty
  have hvisibleRoot : ([], CoverageSample.rootManifest) ∈ CoverageSample.tree.visible := by
    rw [visible, mem_sortedBy, List.mem_filter]
    exact ⟨List.mem_cons_self, rfl⟩
  have hsame := manifest_eq hmanifest hvisibleRoot
  subst hsame
  have hmembers := (discoverWorkspace_iff.mp hlists).2
  revert hmembers
  decide

end PackageTree

end SuitCode
