import SuitCode.ReferenceWalks
import SuitCode.StructuralEvidence
import SuitCode.SymbolResolvers

/-!
# References of symbols which have no location

The references of a file are those of its symbols, found by their ids.  An id
which is not resolved raises, and the walk over the symbols, or over the files
of an owner, ends there.
-/

namespace SuitCode

open PosixText KeyedList ExceptList Memo

variable {exception : PyError} {symbol : EntityInfo}

namespace Repository

variable (repository : Repository)

/-! ## The references of a file -/

def Resolves (symbol : EntityInfo) : Prop :=
  ∃ location, repository.resolveSymbolTarget symbol.id = .ok location

def referencesOfSymbol (symbol : EntityInfo) : List CodeLocation :=
  match repository.findReferencesBySymbolId symbol.id with
  | .ok locations => locations
  | .error _ => []

def referencesOfFile (path : String) : List CodeLocation :=
  (repository.symbolsListed path).flatMap repository.referencesOfSymbol

/-- The providers list the symbols of a file, and know the references of each whose id is
resolved. -/
structure AnswersAbout (path : String) : Prop where
  listed : ∃ symbols, repository.listSymbolsInFile path = .ok symbols
  answered : ∀ symbol ∈ repository.symbolsListed path, repository.Resolves symbol →
    ∃ locations, repository.findReferencesBySymbolId symbol.id = .ok locations

variable {repository} {path : String} {maxLocations : Option ℕ}

theorem AnswersAbout.listSymbolsInFile_eq (hanswers : repository.AnswersAbout path) :
    repository.listSymbolsInFile path = .ok (repository.symbolsListed path) := by
  obtain ⟨symbols, hlisted⟩ := hanswers.listed
  unfold symbolsListed
  rw [hlisted]

theorem AnswersAbout.found_iff (hanswers : repository.AnswersAbout path)
    (hsymbol : symbol ∈ repository.symbolsListed path) :
    (∃ found, repository.findReferencesBySymbolId symbol.id = .ok found) ↔
      repository.Resolves symbol := by
  constructor
  · rintro ⟨found, hfound⟩
    exact resolvedTarget_of_locations hfound
  · exact hanswers.answered symbol hsymbol

theorem findReferences_of_unresolved
    (hraised : repository.resolveSymbolTarget symbol.id = .error exception) :
    repository.findReferencesBySymbolId symbol.id = .error exception := by
  unfold findReferencesBySymbolId locationsBySymbolId
  rw [hraised, error_bind]

theorem standsFor_referencesOfSymbol {found : List CodeLocation}
    (hfound : repository.findReferencesBySymbolId symbol.id = .ok found) :
    StandsFor maxLocations (repository.referencesOfSymbol symbol) found := by
  unfold referencesOfSymbol
  rw [hfound]
  exact standsFor_self

def fileWalk (repository : Repository) (maxLocations : Option ℕ) (symbols : List EntityInfo) :
    PyResult (List CodeLocation) :=
  walkLocations maxLocations
    (fun symbol => repository.findReferencesBySymbolId symbol.id) [] symbols

theorem AnswersAbout.referencesForFile_eq (hanswers : repository.AnswersAbout path)
    (hpositive : maxLocations ≠ some 0) :
    repository.referencesForFile path maxLocations =
      repository.fileWalk maxLocations (repository.symbolsListed path) >>= fun kept =>
        .ok (sortedBy locationSortKey kept) := by
  unfold referencesForFile fileWalk
  rw [if_neg hpositive, hanswers.listSymbolsInFile_eq, ok_bind]
  rfl

theorem keptOf_sortedBy {met kept : List CodeLocation} {full : Bool}
    (hkept : KeptOf maxLocations met kept full) :
    KeptOf maxLocations met (sortedBy locationSortKey kept) full := by
  have hperm := sortedBy_perm locationSortKey kept
  have hkeys : keySet (sortedBy locationSortKey kept) = keySet kept :=
    List.toFinset_eq_of_perm _ _ (hperm.map locationKey)
  constructor
  case nodup => exact (hperm.map locationKey).nodup_iff.mpr hkept.nodup
  case sound =>
    rw [hkeys]
    exact hkept.sound
  case complete =>
    rw [hkeys]
    exact hkept.complete
  case room =>
    rw [hperm.length_eq]
    exact hkept.room
  case capped =>
    rw [hperm.length_eq]
    exact hkept.capped

theorem AnswersAbout.referencesForFile_keptOf (hanswers : repository.AnswersAbout path)
    (hpositive : maxLocations ≠ some 0) {found : List CodeLocation}
    (hfound : repository.referencesForFile path maxLocations = .ok found) :
    ∃ full, KeptOf maxLocations (repository.referencesOfFile path) found full := by
  rw [hanswers.referencesForFile_eq hpositive] at hfound
  obtain ⟨kept, hwalk, hsorted⟩ := bind_eq_ok.mp hfound
  obtain ⟨full, hkept⟩ := walkLocations_ok (keptOf_nil hpositive)
    (fun symbol _ found hfound => standsFor_referencesOfSymbol hfound) hwalk
  rw [List.nil_append] at hkept
  use full
  rw [← Except.ok.inj hsorted]
  exact keptOf_sortedBy hkept

theorem AnswersAbout.referencesForFile_isOk_iff (hanswers : repository.AnswersAbout path)
    (hpositive : maxLocations ≠ some 0) :
    (∃ found, repository.referencesForFile path maxLocations = .ok found) ↔
      ∀ front symbol back, repository.symbolsListed path = front ++ symbol :: back →
        (∀ limit ∈ maxLocations,
          distinctCount (front.flatMap repository.referencesOfSymbol) < limit) →
            repository.Resolves symbol := by
  have hwalk : (∃ found, repository.referencesForFile path maxLocations = .ok found) ↔
      ∃ kept, repository.fileWalk maxLocations (repository.symbolsListed path) = .ok kept := by
    rw [hanswers.referencesForFile_eq hpositive]
    constructor
    · rintro ⟨found, hfound⟩
      obtain ⟨kept, hkept, -⟩ := bind_eq_ok.mp hfound
      use kept
    · rintro ⟨kept, hkept⟩
      use sortedBy locationSortKey kept
      rw [hkept, ok_bind]
  rw [hwalk]
  unfold fileWalk
  rw [walkLocations_isOk_iff (keptOf_nil hpositive)
    (fun symbol _ found hfound => standsFor_referencesOfSymbol hfound)]
  apply forall_congr'
  intro front
  apply forall_congr'
  intro symbol
  apply forall_congr'
  intro back
  apply forall_congr'
  intro hsplit
  rw [List.nil_append, hanswers.found_iff]
  rw [hsplit]
  exact List.mem_append_right front List.mem_cons_self

theorem AnswersAbout.exists_unresolved (hanswers : repository.AnswersAbout path)
    (hpositive : maxLocations ≠ some 0)
    (hraised : repository.referencesForFile path maxLocations = .error exception) :
    ∃ symbol ∈ repository.symbolsListed path,
      repository.resolveSymbolTarget symbol.id = .error exception := by
  rw [hanswers.referencesForFile_eq hpositive] at hraised
  cases hwalk : repository.fileWalk maxLocations (repository.symbolsListed path) with
  | ok kept =>
      rw [hwalk] at hraised
      cases hraised
  | error other =>
      rw [hwalk, error_bind, Except.error.injEq] at hraised
      unfold fileWalk at hwalk
      obtain ⟨front, symbol, back, hsplit, hsymbol, -⟩ :=
        (walkLocations_error_iff (keptOf_nil hpositive)
          (fun symbol _ found hfound => standsFor_referencesOfSymbol hfound)).mp hwalk
      have hmem : symbol ∈ repository.symbolsListed path := by
        rw [hsplit]
        exact List.mem_append_right front List.mem_cons_self
      refine ⟨symbol, hmem, ?_⟩
      cases hresolved : repository.resolveSymbolTarget symbol.id with
      | ok location =>
          obtain ⟨found, hfound⟩ := hanswers.answered symbol hmem ⟨location, hresolved⟩
          rw [hsymbol] at hfound
          cases hfound
      | error own =>
          rw [findReferences_of_unresolved hresolved, Except.error.injEq] at hsymbol
          rw [hsymbol, hraised]

/-! ## Facts and targets of a file -/

/-- A description of a file and an analysis of its change do not raise what the resolution
of one of its symbols raises, and its reference sites have every reference of every symbol
which is resolved. -/
structure FileShown (repository : Repository) (raw path : String) : Prop where
  described : ∀ options, ∀ symbol ∈ repository.symbolsListed path, ∀ exception,
    repository.resolveSymbolTarget symbol.id = .error exception →
      repository.evalFacts (describeFile raw options) ≠ .error exception
  analysed : ∀ options, ∀ symbol ∈ repository.symbolsListed path, ∀ exception,
    repository.resolveSymbolTarget symbol.id = .error exception →
      repository.analyzeChange (.file raw) options ≠ .error exception
  sites : ∃ sites : List CodeLocation,
    repository.fileFact path .semantic .referenceSites = .ok sites ∧
      ∀ symbol ∈ repository.symbolsListed path, repository.Resolves symbol →
        ∀ location ∈ repository.referencesOfSymbol symbol,
          ∃ site ∈ sites, locationKey site = locationKey location

theorem fileFact_referenceSites (path : String) :
    repository.fileFact path .semantic .referenceSites =
      repository.referencesForFile path none := by
  rw [fileFact_eq]
  exact repository.evalFacts_answer (.referencesForFile path)

theorem evalFacts_bind_of_error {α β : Type} {program : FactProgram Repository Empty Empty.elim α}
    {next : α → FactProgram Repository Empty Empty.elim β}
    (hraised : repository.evalFacts program = .error exception) :
    repository.evalFacts (program >>= next) = .error exception := by
  unfold evalFacts at hraised ⊢
  rw [Program.eval_bind, hraised, error_bind]

theorem readFacts_of_sites_error {options : DescribeOptions}
    (hraised : repository.referencesForFile path none = .error exception)
    (hasked : options.includeReferenceSites = true) (htier : options.evidenceTier = .semantic) :
    repository.evalFacts (readFacts path options) = .error exception := by
  have hsites : repository.evalFacts (readFact path .semantic .referenceSites) =
      .error exception :=
    (Program.eval_readCell _ _ _).trans ((fileFact_referenceSites path).trans hraised)
  unfold readFacts
  rw [hasked, htier]
  exact evalFacts_bind_of_error hsites

theorem describeFile_of_sites_error {raw : String}
    (hnormal : normalizeRepositoryRelativePath raw = .ok path)
    (hraised : repository.referencesForFile path none = .error exception)
    {options : DescribeOptions} (hasked : options.includeReferenceSites = true)
    (htier : options.evidenceTier = .semantic) :
    repository.evalFacts (describeFile raw options) = .error exception := by
  have hfacts := readFacts_of_sites_error hraised hasked htier
  have hread : repository.evalFacts (do
      let facts ← readFacts path options
      Program.ask fun _ => fileContextOf path options facts) = .error exception :=
    evalFacts_bind_of_error hfacts
  unfold evalFacts at hread
  unfold describeFile evalFacts
  rw [Program.eval_bind, Program.eval_ask, hnormal, ok_bind]
  exact hread

theorem fileShown_iff_resolves {raw : String}
    (hnormal : normalizeRepositoryRelativePath raw = .ok path)
    (hanswers : repository.AnswersAbout path) :
    FileShown repository raw path ↔
      ∀ symbol ∈ repository.symbolsListed path, repository.Resolves symbol := by
  have hpositive : (none : Option ℕ) ≠ some 0 := by simp
  constructor
  · intro hshown symbol hsymbol
    cases hfound : repository.referencesForFile path none with
    | ok found =>
        obtain ⟨front, back, hsplit⟩ := List.append_of_mem hsymbol
        apply (hanswers.referencesForFile_isOk_iff hpositive).mp ⟨found, hfound⟩ front symbol
          back hsplit
        intro limit hlimit
        cases hlimit
    | error exception =>
        obtain ⟨other, hother, hraised⟩ := hanswers.exists_unresolved hpositive hfound
        have hdescribed := hshown.described ⟨20, 20, true, true, none, .semantic⟩ other hother
          exception hraised
        exact absurd (describeFile_of_sites_error hnormal hfound rfl rfl) hdescribed
  · intro hall
    have hresolved : ∀ symbol ∈ repository.symbolsListed path, ∀ exception,
        repository.resolveSymbolTarget symbol.id ≠ .error exception := by
      intro symbol hsymbol exception hraised
      obtain ⟨location, hlocation⟩ := hall symbol hsymbol
      rw [hraised] at hlocation
      cases hlocation
    constructor
    case described =>
      intro options symbol hsymbol exception hraised
      exact absurd hraised (hresolved symbol hsymbol exception)
    case analysed =>
      intro options symbol hsymbol exception hraised
      exact absurd hraised (hresolved symbol hsymbol exception)
    case sites =>
      have hok : ∃ found, repository.referencesForFile path none = .ok found := by
        rw [hanswers.referencesForFile_isOk_iff hpositive]
        intro front symbol back hsplit _
        apply hall
        rw [hsplit]
        exact List.mem_append_right front List.mem_cons_self
      obtain ⟨found, hfound⟩ := hok
      obtain ⟨full, hkept⟩ := hanswers.referencesForFile_keptOf hpositive hfound
      have hroom : full = false := by
        cases full with
        | false => rfl
        | true =>
            have hcapped := hkept.capped rfl
            cases hcapped
      refine ⟨found, ?_, ?_⟩
      · rw [fileFact_referenceSites]
        exact hfound
      · intro symbol hsymbol _ location hlocation
        apply mem_keySet.mp
        apply hkept.complete hroom
        apply mem_keySet.mpr
        exact ⟨location, List.mem_flatMap.mpr ⟨symbol, hsymbol, hlocation⟩, rfl⟩

/-! ## Files of an owner -/

def referencesOfFiles (repository : Repository) (files : List FileInfo) : List CodeLocation :=
  files.flatMap fun file => repository.referencesOfFile file.repositoryRelPath

def examinedFiles (limit : ℕ) (files : List FileInfo) : List FileInfo :=
  files.take (max 10 limit)

/-- The references of an owner are as many different references of the examined files as
there are, or as asked for. -/
structure OwnerShown (repository : Repository) (limit : ℕ) (examined : List FileInfo)
    (references : List CodeLocation) : Prop where
  nodup : (references.map locationKey).Nodup
  known : keySet references ⊆ keySet (repository.referencesOfFiles examined)
  count : references.length =
    min limit (distinctCount (repository.referencesOfFiles examined))

/-- Every symbol is resolved which the walk over the files comes to: the references of the
files before, and those of the symbols before it in its file, are fewer than asked for. -/
def OwnerSpared (repository : Repository) (limit : ℕ) (examined : List FileInfo) : Prop :=
  ∀ before file after, examined = before ++ file :: after →
    distinctCount (repository.referencesOfFiles before) < limit →
      ∀ front symbol back,
        repository.symbolsListed file.repositoryRelPath = front ++ symbol :: back →
          distinctCount (front.flatMap repository.referencesOfSymbol) < limit →
            repository.Resolves symbol

section Owner

variable {limit : ℕ} {examined : List FileInfo}

theorem some_ne_some_zero (hlimit : limit ≠ 0) : some limit ≠ some 0 := by
  simpa using hlimit

theorem standsFor_referencesOfFile (hlimit : limit ≠ 0)
    (hanswers : ∀ file ∈ examined, repository.AnswersAbout file.repositoryRelPath) :
    ∀ file ∈ examined, ∀ found,
      repository.referencesForFile file.repositoryRelPath (some limit) = .ok found →
        StandsFor (some limit) (repository.referencesOfFile file.repositoryRelPath) found := by
  intro file hfile found hfound
  obtain ⟨full, hkept⟩ := (hanswers file hfile).referencesForFile_keptOf
    (some_ne_some_zero hlimit) hfound
  exact hkept.standsFor

theorem ownerWalk_isOk_iff (hlimit : limit ≠ 0)
    (hanswers : ∀ file ∈ examined, repository.AnswersAbout file.repositoryRelPath) :
    (∃ kept, repository.ownerWalk limit examined = .ok kept) ↔
      OwnerSpared repository limit examined := by
  have hpositive := some_ne_some_zero hlimit
  unfold ownerWalk
  rw [walkLocations_isOk_iff (keptOf_nil hpositive)
    (standsFor_referencesOfFile hlimit hanswers)]
  unfold OwnerSpared
  apply forall_congr'
  intro before
  apply forall_congr'
  intro file
  apply forall_congr'
  intro after
  apply forall_congr'
  intro hsplit
  have hfile : file ∈ examined := by
    rw [hsplit]
    exact List.mem_append_right before List.mem_cons_self
  rw [(hanswers file hfile).referencesForFile_isOk_iff hpositive]
  simp only [List.nil_append, Option.mem_some_iff, forall_eq']
  rfl

theorem ownerShown_of_walk (hlimit : limit ≠ 0)
    (hanswers : ∀ file ∈ examined, repository.AnswersAbout file.repositoryRelPath)
    {kept : List CodeLocation} (hwalk : repository.ownerWalk limit examined = .ok kept) :
    OwnerShown repository limit examined ((sortedBy locationSortKey kept).take limit) := by
  unfold ownerWalk at hwalk
  obtain ⟨full, hkept⟩ := walkLocations_ok (keptOf_nil (some_ne_some_zero hlimit))
    (standsFor_referencesOfFile hlimit hanswers) hwalk
  rw [List.nil_append] at hkept
  have hsorted := keptOf_sortedBy hkept
  have hcounted := distinctCount_of_nodup hsorted.nodup
  have hmost := distinctCount_le_of_subset hsorted.sound
  have hlength : (sortedBy locationSortKey kept).length =
      min limit (distinctCount (repository.referencesOfFiles examined)) := by
    unfold referencesOfFiles
    cases full with
    | true =>
        have hcapped : limit = (sortedBy locationSortKey kept).length := by
          simpa using hsorted.capped rfl
        omega
    | false =>
        have hroom := hsorted.room rfl limit rfl
        have hleast := distinctCount_le_of_subset (hsorted.complete rfl)
        omega
  have hwhole : (sortedBy locationSortKey kept).take limit = sortedBy locationSortKey kept := by
    apply List.take_of_length_le
    omega
  rw [hwhole]
  exact ⟨hsorted.nodup, hsorted.sound, hlength⟩

theorem ownerShown_nil_iff :
    OwnerShown repository limit examined [] ↔
      min limit (distinctCount (repository.referencesOfFiles examined)) = 0 := by
  constructor
  · intro hshown
    rw [← hshown.count]
    rfl
  · intro hnone
    constructor
    case nodup => exact List.nodup_nil
    case known => exact Finset.empty_subset _
    case count =>
      rw [hnone]
      rfl

theorem ownerShown_iff_spared {ownerId : String} {files : List FileInfo}
    {references : List CodeLocation} (hfiles : repository.listFilesByOwner ownerId = .ok files)
    (hanswers : ∀ file ∈ examinedFiles limit files,
      repository.AnswersAbout file.repositoryRelPath)
    (hreferences : ImpactTargetResolver.ownerReferences repository ownerId limit =
      .ok references) :
    OwnerShown repository limit (examinedFiles limit files) references ↔
      OwnerSpared repository limit (examinedFiles limit files) ∨
        distinctCount (repository.referencesOfFiles (examinedFiles limit files)) = 0 := by
  by_cases hlimit : limit = 0
  · rw [hlimit, ImpactTargetResolver.ownerReferences_zero, Except.ok.injEq] at hreferences
    rw [← hreferences, ownerShown_nil_iff, hlimit, Nat.zero_min]
    simp [OwnerSpared]
  · rw [ImpactTargetResolver.ownerReferences_eq repository ownerId hlimit, hfiles,
      ok_bind] at hreferences
    have hspared := ownerWalk_isOk_iff hlimit hanswers
    rw [← hspared]
    unfold examinedFiles at hanswers ⊢
    cases hwalk : repository.ownerWalk limit (files.take (max 10 limit)) with
    | ok kept =>
        have hshown := ownerShown_of_walk hlimit hanswers hwalk
        rw [hwalk, ok_bind] at hreferences
        have heq : (sortedBy locationSortKey kept).take limit = references :=
          Except.ok.inj hreferences
        rw [← heq]
        exact ⟨fun _ => .inl ⟨kept, rfl⟩, fun _ => hshown⟩
    | error exception =>
        rw [hwalk, error_bind] at hreferences
        have hnil : references = [] := by
          cases orOnValueError_eq_ok hreferences with
          | inl hok => cases hok
          | inr hfallback => exact hfallback
        rw [hnil, ownerShown_nil_iff]
        constructor
        · intro hnone
          right
          omega
        · rintro (⟨kept, hkept⟩ | hnone)
          · cases hkept
          · rw [hnone, Nat.min_zero]

end Owner

theorem ownerReferences_of_resolved {ownerId : String} {options : ResolveOptions}
    {resolved : ResolvedImpactTarget}
    (hresolve : ImpactTargetResolver.resolveOwnerTarget ⟨repository⟩ ownerId options =
      .ok resolved) :
    ImpactTargetResolver.ownerReferences repository ownerId options.referencePreviewLimit =
      .ok resolved.referenceLocations := by
  simp only [ImpactTargetResolver.resolveOwnerTarget, bind_eq_ok, pure_eq_ok] at hresolve
  obtain ⟨owner, -, references, hreferences, componentId, -, testTarget, -, tests, -, rfl⟩ :=
    hresolve
  exact hreferences

end Repository

open Repository

/-- A file is shown exactly when its symbols are resolved, and the references of an owner
exactly when there are none or every symbol is resolved which the walk comes to. -/
theorem unresolvedSymbols_hide_iff (repository : Repository) :
    (∀ raw path, normalizeRepositoryRelativePath raw = .ok path →
      repository.AnswersAbout path →
        (FileShown repository raw path ↔
          ∀ symbol ∈ repository.symbolsListed path, repository.Resolves symbol)) ∧
    (∀ ownerId files options resolved, repository.listFilesByOwner ownerId = .ok files →
      (∀ file ∈ examinedFiles options.referencePreviewLimit files,
        repository.AnswersAbout file.repositoryRelPath) →
      ImpactTargetResolver.resolveOwnerTarget ⟨repository⟩ ownerId options = .ok resolved →
        (OwnerShown repository options.referencePreviewLimit
            (examinedFiles options.referencePreviewLimit files) resolved.referenceLocations ↔
          OwnerSpared repository options.referencePreviewLimit
              (examinedFiles options.referencePreviewLimit files) ∨
            distinctCount (repository.referencesOfFiles
              (examinedFiles options.referencePreviewLimit files)) = 0)) := by
  constructor
  · intro raw path hnormal hanswers
    exact fileShown_iff_resolves hnormal hanswers
  · intro ownerId files options resolved hfiles hanswers hresolve
    exact ownerShown_iff_spared hfiles hanswers (ownerReferences_of_resolved hresolve)

/-! ## Two symbols on the line of a file -/

namespace Sample

def oneLineFile : Repository :=
  repository
    [{ providerId := "py"
       components := [component "c:py:app" ["a.py"] []]
       files := [file "c:py:app" "a.py", file "c:py:app" "b.py"]
       symbolsInFile := fun path =>
        if path = "a.py" then
          .ok [⟨"entity:a.py:function:f:1-1", "f", "a.py", "function", some 1, some 1,
            manifest⟩]
        else
          .ok [⟨"entity:b.py:function:g:1-1", "g", "b.py", "function", some 1, some 1,
              manifest⟩,
            ⟨"entity:b.py:function:g:1-1", "g", "b.py", "function", some 1, some 19,
              manifest⟩]
       references := fun path line column =>
        .ok [⟨path, line + 1, column, none, manifest, none, none⟩] }]
    [.architecture, .code, .test]

def ownerOptions : ResolveOptions :=
  { referencePreviewLimit := 5
    testPreviewLimit := 5 }

end Sample

theorem oneLineFile_refused :
    Sample.oneLineFile.resolveSymbolTarget "entity:b.py:function:g:1-1" =
      raiseValueError "symbol id resolved ambiguously: `entity:b.py:function:g:1-1`" := by
  decide

theorem oneLineFile_owner :
    (ImpactTargetResolver.resolveOwnerTarget ⟨Sample.oneLineFile⟩ "c:py:app"
      Sample.ownerOptions).Yields fun resolved => resolved.referenceLocations = [] := by
  decide +kernel

theorem oneLineFile_files :
    Sample.oneLineFile.listFilesByOwner "c:py:app" =
      .ok [Sample.file "c:py:app" "a.py", Sample.file "c:py:app" "b.py"] := by
  decide

theorem oneLineFile_unresolved (hid : symbol.id = "entity:b.py:function:g:1-1") :
    ¬ Sample.oneLineFile.Resolves symbol := by
  rintro ⟨location, hlocation⟩
  rw [hid, oneLineFile_refused] at hlocation
  exact absurd hlocation raiseValueError_ne_ok

theorem oneLineFile_ids :
    (Sample.oneLineFile.symbolsListed "a.py").map EntityInfo.id =
        ["entity:a.py:function:f:1-1"] ∧
      (Sample.oneLineFile.symbolsListed "b.py").map EntityInfo.id =
        ["entity:b.py:function:g:1-1", "entity:b.py:function:g:1-1"] := by
  decide

theorem oneLineFile_answers (path : String) (hpath : path = "a.py" ∨ path = "b.py") :
    Sample.oneLineFile.AnswersAbout path := by
  cases hpath with
  | inl hfirst =>
      rw [hfirst]
      constructor
      case listed =>
        have hlisted : (Sample.oneLineFile.listSymbolsInFile "a.py").Yields
            fun _ => True := by decide
        obtain ⟨symbols, hsymbols, -⟩ := hlisted.exists_ok
        exact ⟨symbols, hsymbols⟩
      case answered =>
        intro symbol hsymbol _
        have hid : symbol.id ∈ ["entity:a.py:function:f:1-1"] := by
          rw [← oneLineFile_ids.1]
          exact List.mem_map_of_mem hsymbol
        have hfound : (Sample.oneLineFile.findReferencesBySymbolId
            "entity:a.py:function:f:1-1").Yields fun _ => True := by decide
        obtain ⟨found, hfound, -⟩ := hfound.exists_ok
        rw [List.mem_singleton.mp hid]
        exact ⟨found, hfound⟩
  | inr hsecond =>
      rw [hsecond]
      constructor
      case listed =>
        have hlisted : (Sample.oneLineFile.listSymbolsInFile "b.py").Yields
            fun _ => True := by decide
        obtain ⟨symbols, hsymbols, -⟩ := hlisted.exists_ok
        exact ⟨symbols, hsymbols⟩
      case answered =>
        intro symbol hsymbol hresolves
        have hid : symbol.id ∈
            ["entity:b.py:function:g:1-1", "entity:b.py:function:g:1-1"] := by
          rw [← oneLineFile_ids.2]
          exact List.mem_map_of_mem hsymbol
        exact absurd hresolves (oneLineFile_unresolved (by simpa using hid))

theorem oneLineFile_examined :
    ∀ file ∈ examinedFiles Sample.ownerOptions.referencePreviewLimit
        [Sample.file "c:py:app" "a.py", Sample.file "c:py:app" "b.py"],
      Sample.oneLineFile.AnswersAbout file.repositoryRelPath := by
  intro file hfile
  apply oneLineFile_answers
  have hmem := List.mem_of_mem_take hfile
  rw [List.mem_pair] at hmem
  cases hmem with
  | inl hfirst =>
      left
      rw [hfirst]
      rfl
  | inr hsecond =>
      right
      rw [hsecond]
      rfl

theorem unresolvedSymbols_hide_iff_oneLineFile :
    (FileShown Sample.oneLineFile "b.py" "b.py" ↔
      ∀ symbol ∈ Sample.oneLineFile.symbolsListed "b.py",
        Sample.oneLineFile.Resolves symbol) ∧
    ∃ resolved, ImpactTargetResolver.resolveOwnerTarget ⟨Sample.oneLineFile⟩ "c:py:app"
        Sample.ownerOptions = .ok resolved ∧
      (OwnerShown Sample.oneLineFile 5
          (examinedFiles 5 [Sample.file "c:py:app" "a.py", Sample.file "c:py:app" "b.py"])
          resolved.referenceLocations ↔
        OwnerSpared Sample.oneLineFile 5
            (examinedFiles 5 [Sample.file "c:py:app" "a.py", Sample.file "c:py:app" "b.py"]) ∨
          distinctCount (Sample.oneLineFile.referencesOfFiles (examinedFiles 5
            [Sample.file "c:py:app" "a.py", Sample.file "c:py:app" "b.py"])) = 0) := by
  obtain ⟨resolved, hresolve, -⟩ := oneLineFile_owner.exists_ok
  constructor
  · apply (unresolvedSymbols_hide_iff Sample.oneLineFile).1 "b.py" "b.py" (by decide)
    exact oneLineFile_answers "b.py" (.inr rfl)
  · exact ⟨resolved, hresolve, (unresolvedSymbols_hide_iff Sample.oneLineFile).2 "c:py:app" _
      Sample.ownerOptions resolved oneLineFile_files oneLineFile_examined hresolve⟩

/-- The file on one line is not described. -/
theorem unresolvedSymbols_not_always_shown :
    ¬ ∀ repository : Repository,
      (∀ raw path, normalizeRepositoryRelativePath raw = .ok path →
        repository.AnswersAbout path → FileShown repository raw path) ∧
      (∀ ownerId files options resolved, repository.listFilesByOwner ownerId = .ok files →
        (∀ file ∈ examinedFiles options.referencePreviewLimit files,
          repository.AnswersAbout file.repositoryRelPath) →
        ImpactTargetResolver.resolveOwnerTarget ⟨repository⟩ ownerId options = .ok resolved →
          OwnerShown repository options.referencePreviewLimit
            (examinedFiles options.referencePreviewLimit files)
            resolved.referenceLocations) := by
  intro hall
  have hanswers := oneLineFile_answers "b.py" (.inr rfl)
  have hnormal : normalizeRepositoryRelativePath "b.py" = .ok "b.py" := by decide
  have hshown := (hall Sample.oneLineFile).1 "b.py" "b.py" hnormal hanswers
  have hid : "entity:b.py:function:g:1-1" ∈
      (Sample.oneLineFile.symbolsListed "b.py").map EntityInfo.id := by
    rw [oneLineFile_ids.2]
    exact List.mem_cons_self
  obtain ⟨symbol, hsymbol, hid⟩ := List.mem_map.mp hid
  exact oneLineFile_unresolved hid
    ((fileShown_iff_resolves hnormal hanswers).mp hshown symbol hsymbol)

end SuitCode
