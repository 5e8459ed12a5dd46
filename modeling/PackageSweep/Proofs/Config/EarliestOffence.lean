import Mathlib.Data.List.Induction
import Mathlib.Data.List.Nodup
import PackageSweep.Proofs.Acceptance

/-!
# The earliest offence of a configuration

The rules for a configuration are said here of the characters of its texts. A check goes through its
values in order and stops at the first one that breaks the rule, and the checks follow each other,
so the fault of a refused configuration is that of the first rule it breaks, at the first value that
breaks it. Cutting a directory at its slashes shows the same `..` as walking along its path does:
the parts that a path steps over are not `..`.
-/

namespace PackageSweep

/-- The spelling of a directory below the root. -/
structure WellSpelled (directory : String) : Prop where
  ne_empty : directory ≠ ""
  nul_notMem : '\x00' ∉ directory.toList
  not_rooted : directory.toList.head? ≠ some '/'
  dots_notMem : ['.', '.'] ∉ directory.toList.splitOn '/'

/-- What is wrong with the spelling of a directory. A NUL counts before anything that leads out of
the root. -/
inductive Misspelled : String → Offence → Prop where
  | empty : Misspelled "" .emptyPath
  | nul {directory : String} (hnul : '\x00' ∈ directory.toList) :
      Misspelled directory .nulInPath
  | rooted {directory : String} (hnul : '\x00' ∉ directory.toList)
      (hslash : directory.toList.head? = some '/') : Misspelled directory .notRelative
  | climbing {directory : String} (hnul : '\x00' ∉ directory.toList)
      (hdots : ['.', '.'] ∈ directory.toList.splitOn '/') : Misspelled directory .notRelative

/-- A text that is not blank. -/
def Speaks (value : String) : Prop := ∃ c ∈ value.toList, Text.isBlank c = false

/-- The first value of a list that is not right. -/
def IsFirst (right : String → Prop) (values : List String) (value : String) : Prop :=
  ∃ before later, values = before ++ value :: later ∧ (∀ v ∈ before, right v) ∧ ¬ right value

namespace Config

/-- The rules for the list of packages. -/
structure WellListed (c : Config) : Prop where
  packages_ne_nil : c.packages ≠ []
  packages_spelled : ∀ d ∈ c.packages, WellSpelled d
  packages_distinct : (c.packages.map Directory.normalForm).Nodup

/-- The rules for a configuration. -/
structure WellFormed (c : Config) : Prop extends WellListed c where
  windowsOnly_spelled : ∀ ds, c.windowsOnly = some ds → ∀ d ∈ ds, WellSpelled d
  manifest_speaks : Speaks c.manifestName
  manifest_nul_notMem : '\x00' ∉ c.manifestName.toList
  prefixes_speak : ∀ p ∈ c.manifestPrefixes, Speaks p

/-- The fault of the first rule that a configuration breaks, at the first value that breaks it. A
repeated package is named by its normal form, which one of the packages before it has already. -/
inductive EarliestOffence (c : Config) : Fault → Prop where
  | noPackages (hnone : c.packages = []) : EarliestOffence c (.config .noPackages)
  | misspelledPackage {d : String} {o : Offence} (hfirst : IsFirst WellSpelled c.packages d)
      (hoffence : Misspelled d o) :
      EarliestOffence c (.invalidValue "workspace.packages" d o)
  | repeatedPackage {before later : List String} {d : String}
      (hspelled : ∀ d ∈ c.packages, WellSpelled d) (hlist : c.packages = before ++ d :: later)
      (hdistinct : (before.map Directory.normalForm).Nodup)
      (hrepeated : Directory.normalForm d ∈ before.map Directory.normalForm) :
      EarliestOffence c (.invalidValue "workspace.packages" (Directory.normalForm d) .repeated)
  | misspelledWindowsOnly {ds : List String} {d : String} {o : Offence} (hlisted : c.WellListed)
      (hentries : c.windowsOnly = some ds) (hfirst : IsFirst WellSpelled ds d)
      (hoffence : Misspelled d o) :
      EarliestOffence c (.invalidValue "workspace.windows_only" d o)
  | blankManifest (hlisted : c.WellListed)
      (hwindows : ∀ ds, c.windowsOnly = some ds → ∀ d ∈ ds, WellSpelled d)
      (hblank : ¬ Speaks c.manifestName) :
      EarliestOffence c (.invalidValue "workspace.manifest" c.manifestName .blank)
  | nulInManifest (hlisted : c.WellListed)
      (hwindows : ∀ ds, c.windowsOnly = some ds → ∀ d ∈ ds, WellSpelled d)
      (hnul : '\x00' ∈ c.manifestName.toList) :
      EarliestOffence c (.invalidValue "workspace.manifest" c.manifestName .nulInPath)
  | blankPrefix {p : String} (hlisted : c.WellListed)
      (hwindows : ∀ ds, c.windowsOnly = some ds → ∀ d ∈ ds, WellSpelled d)
      (hmanifest : Speaks c.manifestName) (hnul : '\x00' ∉ c.manifestName.toList)
      (hfirst : IsFirst Speaks c.manifestPrefixes p) :
      EarliestOffence c (.invalidValue "workspace.manifest_commands" p .blank)

end Config

variable {offence? : String → Option Offence} {field value d : String} {values ds : List String}
  {o : Offence} {fault : Fault} {right : String → Prop}

/-! ## Spelling, by characters and by names -/

theorem dots_mem_names_iff {path : List Char} :
    ['.', '.'] ∈ Path.names path ↔ ['.', '.'] ∈ path.splitOn '/' := by
  have hkept : (!Path.isIdle ['.', '.']) = true := rfl
  rw [Path.names, List.mem_filter, Text.pieces_eq_splitOn]
  exact and_iff_left hkept

theorem isDirectoryPath_iff : IsDirectoryPath d ↔ WellSpelled d := by
  have hrelative : Path.isAbsolute d.toList = false ↔ d.toList.head? ≠ some '/' := by
    rw [Path.isAbsolute, beq_eq_false_iff_ne]
  constructor
  · rintro ⟨hne, hnul, hrel, hdots⟩
    exact ⟨hne, hnul, hrelative.mp hrel, fun h => hdots (dots_mem_names_iff.mpr h)⟩
  · rintro ⟨hne, hnul, hrel, hdots⟩
    exact ⟨hne, hnul, hrelative.mpr hrel, fun h => hdots (dots_mem_names_iff.mp h)⟩

theorem allBlank_eq_false_iff : Text.allBlank value.toList = false ↔ Speaks value := by
  rw [Text.allBlank, List.all_eq_false, Speaks]
  simp only [Bool.not_eq_true]

theorem Misspelled.not_wellSpelled (h : Misspelled d o) : ¬ WellSpelled d := by
  intro hd
  cases h with
  | empty => exact hd.ne_empty rfl
  | nul hnul => exact hd.nul_notMem hnul
  | rooted _ hslash => exact hd.not_rooted hslash
  | climbing _ hdots => exact hd.dots_notMem hdots

theorem directoryOffence?_of_misspelled (h : Misspelled d o) : directoryOffence? d = some o := by
  have hsome : directoryOffence? d ≠ none := by
    intro hnone
    exact h.not_wellSpelled (isDirectoryPath_iff.mp (directoryOffence?_eq_none_iff.mp hnone))
  -- Once the path itself is right, it can only lead out of the root.
  have hpath : ∀ {e : String}, e ≠ "" → '\x00' ∉ e.toList → directoryOffence? e ≠ none →
      directoryOffence? e = some .notRelative := by
    intro e hne hnul he
    have hnone : pathOffence? e = none := pathOffence?_eq_none_iff.mpr ⟨hne, hnul⟩
    rw [directoryOffence?, hnone] at he ⊢
    simpa using he
  cases h with
  | empty => rfl
  | nul hnul =>
      have hne : d ≠ "" := by
        rintro rfl
        simp at hnul
      simp [directoryOffence?, pathOffence?, hne, hnul]
  | rooted hnul hslash =>
      refine hpath ?_ hnul hsome
      rintro rfl
      simp at hslash
  | climbing hnul hdots =>
      refine hpath ?_ hnul hsome
      rintro rfl
      exact absurd hdots (by decide)

theorem exists_misspelled (h : ¬ WellSpelled d) : ∃ o, Misspelled d o := by
  by_cases hne : d = ""
  · exact ⟨.emptyPath, hne ▸ Misspelled.empty⟩
  by_cases hnul : '\x00' ∈ d.toList
  · exact ⟨_, .nul hnul⟩
  by_cases hslash : d.toList.head? = some '/'
  · exact ⟨_, .rooted hnul hslash⟩
  by_cases hdots : ['.', '.'] ∈ d.toList.splitOn '/'
  · exact ⟨_, .climbing hnul hdots⟩
  exact absurd ⟨hne, hnul, hslash, hdots⟩ h

theorem directoryOffence?_eq_some_iff : directoryOffence? d = some o ↔ Misspelled d o := by
  constructor
  · intro h
    have hnot : ¬ WellSpelled d := by
      intro hd
      rw [directoryOffence?_eq_none_iff.mpr (isDirectoryPath_iff.mpr hd)] at h
      simp at h
    obtain ⟨o', ho'⟩ := exists_misspelled hnot
    have hsame : o' = o := Option.some.inj ((directoryOffence?_of_misspelled ho').symm.trans h)
    exact hsame ▸ ho'
  · exact directoryOffence?_of_misspelled

/-! ## Checks that fail -/

theorem IsFirst.mem (h : IsFirst right values value) : value ∈ values := by
  obtain ⟨before, later, rfl, -, -⟩ := h
  simp

theorem IsFirst.not_right (h : IsFirst right values value) : ¬ right value := by
  obtain ⟨before, later, -, -, hvalue⟩ := h
  exact hvalue

theorem check_eq_error_iff :
    check offence? field value = .error fault ↔
      ∃ o, offence? value = some o ∧ fault = .invalidValue field value o := by
  cases h : offence? value <;> simp [check, h, eq_comm]

theorem validateEach_eq_error_iff {validate : String → Except Fault Unit} :
    validateEach validate values = .error fault ↔
      ∃ before v later, values = before ++ v :: later ∧ (∀ b ∈ before, validate b = .ok ()) ∧
        validate v = .error fault := by
  constructor
  · intro h
    induction values with
    | nil => simp [validateEach] at h
    | cons v vs ih =>
        rcases Result.andThen_eq_error_iff.mp h with hv | ⟨hv, hvs⟩
        · exact ⟨[], v, vs, rfl, by simp, hv⟩
        · obtain ⟨before, u, later, rfl, hbefore, hu⟩ := ih hvs
          exact ⟨v :: before, u, later, rfl, List.forall_mem_cons.mpr ⟨hv, hbefore⟩, hu⟩
  · rintro ⟨before, v, later, rfl, hbefore, hv⟩
    induction before with
    | nil => exact Result.andThen_eq_error_iff.mpr (.inl hv)
    | cons b before ih =>
        obtain ⟨hb, hbefore⟩ := List.forall_mem_cons.mp hbefore
        exact Result.andThen_eq_error_iff.mpr (.inr ⟨hb, ih hbefore⟩)

/-- A check along a list names the first value that is not right. -/
theorem validateEach_check_eq_error_iff (hright : ∀ v, offence? v = none ↔ right v) :
    validateEach (check offence? field) values = .error fault ↔
      ∃ v o, IsFirst right values v ∧ offence? v = some o ∧ fault = .invalidValue field v o := by
  simp only [validateEach_eq_error_iff, check_eq_ok_iff, check_eq_error_iff, hright]
  constructor
  · rintro ⟨before, v, later, hvalues, hbefore, o, ho, rfl⟩
    have hv : ¬ right v := by
      rw [← hright, ho]
      simp
    exact ⟨v, o, ⟨before, later, hvalues, hbefore, hv⟩, ho, rfl⟩
  · rintro ⟨v, o, ⟨before, later, hvalues, hbefore, -⟩, ho, rfl⟩
    exact ⟨before, v, later, hvalues, hbefore, o, ho, rfl⟩

/-- Values that are new and differ from each other are taken up one after the other. -/
theorem firstRepeated?_append {seen before : List String} (hnodup : before.Nodup)
    (hnew : ∀ b ∈ before, b ∉ seen) :
    firstRepeated? seen (before ++ values) = firstRepeated? (before.reverse ++ seen) values := by
  induction before generalizing seen with
  | nil => rfl
  | cons b before ih =>
      obtain ⟨hb, hnodup⟩ := List.nodup_cons.mp hnodup
      obtain ⟨hseen, hnew⟩ := List.forall_mem_cons.mp hnew
      have hlater : ∀ x ∈ before, x ∉ b :: seen := by
        intro x hx
        exact List.not_mem_cons_of_ne_of_not_mem (fun h => hb (h ▸ hx)) (hnew x hx)
      rw [List.cons_append, firstRepeated?, if_neg (by simpa using hseen), ih hnodup hlater,
        List.reverse_cons, List.append_assoc, List.singleton_append]

theorem nodup_or_exists_repeated (values : List String) :
    values.Nodup ∨
      ∃ before v later, values = before ++ v :: later ∧ before.Nodup ∧ v ∈ before := by
  -- From the end: a repetition that the front of the list has already comes first.
  induction values using List.reverseRecOn with
  | nil => exact .inl .nil
  | append_singleton values v ih =>
      rcases ih with hnodup | ⟨before, u, later, rfl, hnodup, hu⟩
      · by_cases hv : v ∈ values
        · exact .inr ⟨values, v, [], rfl, hnodup, hv⟩
        · refine .inl ?_
          rw [← List.concat_eq_append]
          exact hnodup.concat hv
      · exact .inr ⟨before, u, later ++ [v], by simp, hnodup, hu⟩

theorem validateUnique_of_repeated {before later : List String} (hnodup : before.Nodup)
    (hvalue : value ∈ before) :
    validateUnique field (before ++ value :: later) =
      .error (.invalidValue field value .repeated) := by
  have hfirst : firstRepeated? [] (before ++ value :: later) = some value := by
    rw [firstRepeated?_append hnodup (by simp), firstRepeated?]
    exact if_pos (by simpa using hvalue)
  rw [validateUnique, hfirst]

theorem validateUnique_eq_error_iff :
    validateUnique field values = .error fault ↔
      ∃ before v later, values = before ++ v :: later ∧ before.Nodup ∧ v ∈ before ∧
        fault = .invalidValue field v .repeated := by
  constructor
  · intro h
    rcases nodup_or_exists_repeated values with hnodup | ⟨before, v, later, rfl, hnodup, hv⟩
    · rw [validateUnique_eq_ok_iff.mpr hnodup] at h
      simp at h
    · rw [validateUnique_of_repeated hnodup hv] at h
      exact ⟨before, v, later, rfl, hnodup, hv, (Except.error.inj h).symm⟩
  · rintro ⟨before, v, later, rfl, hnodup, hv, rfl⟩
    exact validateUnique_of_repeated hnodup hv

/-! ## The checks of a configuration -/

theorem validateDirectory_eq_ok_iff : validateDirectory field d = .ok () ↔ WellSpelled d := by
  rw [validateDirectory, check_eq_ok_iff, directoryOffence?_eq_none_iff, isDirectoryPath_iff]

theorem validateDirectories_eq_error_iff :
    validateEach (validateDirectory field) ds = .error fault ↔
      ∃ d o, IsFirst WellSpelled ds d ∧ Misspelled d o ∧ fault = .invalidValue field d o := by
  have hright : ∀ v, directoryOffence? v = none ↔ WellSpelled v := fun v =>
    directoryOffence?_eq_none_iff.trans isDirectoryPath_iff
  rw [validateDirectory, validateEach_check_eq_error_iff hright]
  simp only [directoryOffence?_eq_some_iff]

theorem blankOffence?_eq_some_iff : blankOffence? value = some o ↔ ¬ Speaks value ∧ o = .blank := by
  cases h : Text.allBlank value.toList <;>
    simp [blankOffence?, ← allBlank_eq_false_iff, h, eq_comm]

theorem validateNotBlank_eq_ok_iff : validateNotBlank field value = .ok () ↔ Speaks value := by
  rw [validateNotBlank, check_eq_ok_iff, blankOffence?_eq_none_iff, allBlank_eq_false_iff]

theorem validateNotBlank_eq_error_iff :
    validateNotBlank field value = .error fault ↔
      ¬ Speaks value ∧ fault = .invalidValue field value .blank := by
  rw [validateNotBlank, check_eq_error_iff]
  simp only [blankOffence?_eq_some_iff, and_assoc, exists_and_left, exists_eq_left]

theorem validatePrefixes_eq_error_iff :
    validateEach (validateNotBlank field) values = .error fault ↔
      ∃ p, IsFirst Speaks values p ∧ fault = .invalidValue field p .blank := by
  have hright : ∀ v, blankOffence? v = none ↔ Speaks v := fun v =>
    blankOffence?_eq_none_iff.trans allBlank_eq_false_iff
  rw [validateNotBlank, validateEach_check_eq_error_iff hright]
  simp only [blankOffence?_eq_some_iff]
  constructor
  · rintro ⟨p, o, hfirst, ⟨-, rfl⟩, rfl⟩
    exact ⟨p, hfirst, rfl⟩
  · rintro ⟨p, hfirst, rfl⟩
    exact ⟨p, .blank, hfirst, ⟨hfirst.not_right, rfl⟩, rfl⟩

theorem Speaks.ne_empty (h : Speaks value) : value ≠ "" := by
  rintro rfl
  obtain ⟨c, hc, -⟩ := h
  simp at hc

theorem validatePath_eq_ok_iff :
    validatePath field value = .ok () ↔ value ≠ "" ∧ '\x00' ∉ value.toList := by
  rw [validatePath, check_eq_ok_iff, pathOffence?_eq_none_iff]

theorem validatePath_eq_error_iff :
    validatePath field value = .error fault ↔
      value = "" ∧ fault = .invalidValue field "" .emptyPath ∨
        '\x00' ∈ value.toList ∧ fault = .invalidValue field value .nulInPath := by
  rw [validatePath, check_eq_error_iff]
  by_cases hempty : value = ""
  · simp [pathOffence?, hempty]
  · by_cases hnul : '\x00' ∈ value.toList <;> simp [pathOffence?, hempty, hnul]

namespace Config

variable {c : Config}

theorem forall_windowsOnly_iff :
    (∀ d ∈ c.windowsOnly.getD [], WellSpelled d) ↔
      ∀ ds, c.windowsOnly = some ds → ∀ d ∈ ds, WellSpelled d := by
  cases c.windowsOnly <;> simp

theorem accepted_iff : c.Accepted ↔ c.WellFormed := by
  constructor
  · intro h
    have hpackages : ∀ d ∈ c.packages, WellSpelled d := fun d hd =>
      isDirectoryPath_iff.mp (h.packages_path d hd)
    have hwindows : ∀ d ∈ c.windowsOnly.getD [], WellSpelled d := fun d hd =>
      isDirectoryPath_iff.mp (h.windowsOnly_path d hd)
    have hprefixes : ∀ p ∈ c.manifestPrefixes, Speaks p := fun p hp =>
      allBlank_eq_false_iff.mp (h.manifestPrefixes_not_blank p hp)
    exact ⟨⟨h.packages_ne_nil, hpackages, h.packages_nodup⟩, forall_windowsOnly_iff.mp hwindows,
      allBlank_eq_false_iff.mp h.manifest_not_blank, h.manifest_nul_notMem, hprefixes⟩
  · intro h
    have hpackages : ∀ d ∈ c.packages, IsDirectoryPath d := fun d hd =>
      isDirectoryPath_iff.mpr (h.packages_spelled d hd)
    have hwindows : ∀ d ∈ c.windowsOnly.getD [], IsDirectoryPath d := fun d hd =>
      isDirectoryPath_iff.mpr (forall_windowsOnly_iff.mpr h.windowsOnly_spelled d hd)
    have hprefixes : ∀ p ∈ c.manifestPrefixes, Text.allBlank p.toList = false := fun p hp =>
      allBlank_eq_false_iff.mpr (h.prefixes_speak p hp)
    exact ⟨h.packages_ne_nil, hpackages, h.packages_distinct, hwindows,
      allBlank_eq_false_iff.mpr h.manifest_speaks, h.manifest_nul_notMem, hprefixes⟩

theorem validateUnique_packages_eq_error_iff :
    validateUnique field (c.packages.map Directory.normalForm) = .error fault ↔
      ∃ before d later, c.packages = before ++ d :: later ∧
        (before.map Directory.normalForm).Nodup ∧
        Directory.normalForm d ∈ before.map Directory.normalForm ∧
        fault = .invalidValue field (Directory.normalForm d) .repeated := by
  rw [validateUnique_eq_error_iff]
  constructor
  · rintro ⟨before', v, later', hforms, hnodup, hv, rfl⟩
    obtain ⟨before, rest, hlist, rfl, hrest⟩ := List.map_eq_append_iff.mp hforms
    obtain ⟨d, later, rfl, rfl, rfl⟩ := List.map_eq_cons_iff.mp hrest
    exact ⟨before, d, later, hlist, hnodup, hv, rfl⟩
  · rintro ⟨before, d, later, hlist, hnodup, hd, rfl⟩
    rw [hlist, List.map_append, List.map_cons]
    exact ⟨_, _, _, rfl, hnodup, hd, rfl⟩

/-- Which check a refused configuration fails, all earlier ones having passed. -/
theorem validate_eq_error_iff_of_packages (hne : c.packages ≠ []) :
    c.validate = .error fault ↔
      validateEach (validateDirectory "workspace.packages") c.packages = .error fault ∨
      (∀ d ∈ c.packages, WellSpelled d) ∧
        (validateUnique "workspace.packages" (c.packages.map Directory.normalForm) = .error fault ∨
        (c.packages.map Directory.normalForm).Nodup ∧
          (validateEach (validateDirectory "workspace.windows_only") (c.windowsOnly.getD []) =
              .error fault ∨
          (∀ d ∈ c.windowsOnly.getD [], WellSpelled d) ∧
            (validateNotBlank "workspace.manifest" c.manifestName = .error fault ∨
            Speaks c.manifestName ∧
              (validatePath "workspace.manifest" c.manifestName = .error fault ∨
              validatePath "workspace.manifest" c.manifestName = .ok () ∧
                validateEach (validateNotBlank "workspace.manifest_commands")
                  c.manifestPrefixes = .error fault)))) := by
  rw [validate, if_neg hne]
  simp only [Result.andThen_eq_error_iff, validateEach_eq_ok_iff, validateDirectory_eq_ok_iff,
    validateUnique_eq_ok_iff, validateNotBlank_eq_ok_iff]

theorem earliestOffence_of_validate (h : c.validate = .error fault) : c.EarliestOffence fault := by
  by_cases hnone : c.packages = []
  · rw [validate, if_pos hnone] at h
    rcases Result.andThen_eq_error_iff.mp h with hthrow | ⟨hthrow, -⟩
    · obtain rfl := Result.throw_eq_error_iff.mp hthrow
      exact .noPackages hnone
    · exact absurd hthrow Result.throw_ne_ok
  -- One check after the other: it fails, or it has passed and the rest fails.
  rcases (validate_eq_error_iff_of_packages hnone).mp h with h | ⟨hspelled, h⟩
  · obtain ⟨d, o, hfirst, ho, rfl⟩ := validateDirectories_eq_error_iff.mp h
    exact .misspelledPackage hfirst ho
  rcases h with h | ⟨hdistinct, h⟩
  · obtain ⟨before, d, later, hlist, hnodup, hd, rfl⟩ :=
      validateUnique_packages_eq_error_iff.mp h
    exact .repeatedPackage hspelled hlist hnodup hd
  have hlisted : c.WellListed := ⟨hnone, hspelled, hdistinct⟩
  rcases h with h | ⟨hentries, h⟩
  · obtain ⟨d, o, hfirst, ho, rfl⟩ := validateDirectories_eq_error_iff.mp h
    cases hds : c.windowsOnly with
    | none =>
        have hmem := hfirst.mem
        simp [hds] at hmem
    | some ds =>
        rw [hds] at hfirst
        exact .misspelledWindowsOnly hlisted hds hfirst ho
  have hwindows := forall_windowsOnly_iff.mp hentries
  rcases h with h | ⟨hspeaks, h⟩
  · obtain ⟨hblank, rfl⟩ := validateNotBlank_eq_error_iff.mp h
    exact .blankManifest hlisted hwindows hblank
  rcases h with h | ⟨hpath, h⟩
  · rcases validatePath_eq_error_iff.mp h with ⟨hempty, -⟩ | ⟨hnul, rfl⟩
    · exact absurd hempty hspeaks.ne_empty
    · exact .nulInManifest hlisted hwindows hnul
  obtain ⟨-, hnul⟩ := validatePath_eq_ok_iff.mp hpath
  obtain ⟨p, hfirst, rfl⟩ := validatePrefixes_eq_error_iff.mp h
  exact .blankPrefix hlisted hwindows hspeaks hnul hfirst

theorem validate_of_earliestOffence (h : c.EarliestOffence fault) : c.validate = .error fault := by
  cases h with
  | noPackages hnone =>
      rw [validate, if_pos hnone]
      rfl
  | misspelledPackage hfirst ho =>
      have hne : c.packages ≠ [] := List.ne_nil_of_mem hfirst.mem
      refine (validate_eq_error_iff_of_packages hne).mpr (.inl ?_)
      exact validateDirectories_eq_error_iff.mpr ⟨_, _, hfirst, ho, rfl⟩
  | repeatedPackage hspelled hlist hnodup hd =>
      have hne : c.packages ≠ [] := by simp [hlist]
      refine (validate_eq_error_iff_of_packages hne).mpr (.inr ⟨hspelled, .inl ?_⟩)
      exact validateUnique_packages_eq_error_iff.mpr ⟨_, _, _, hlist, hnodup, hd, rfl⟩
  | misspelledWindowsOnly hlisted hentries hfirst ho =>
      refine (validate_eq_error_iff_of_packages hlisted.packages_ne_nil).mpr ?_
      refine .inr ⟨hlisted.packages_spelled, .inr ⟨hlisted.packages_distinct, .inl ?_⟩⟩
      rw [hentries]
      exact validateDirectories_eq_error_iff.mpr ⟨_, _, hfirst, ho, rfl⟩
  | blankManifest hlisted hwindows hblank =>
      refine (validate_eq_error_iff_of_packages hlisted.packages_ne_nil).mpr ?_
      refine .inr ⟨hlisted.packages_spelled, .inr ⟨hlisted.packages_distinct, ?_⟩⟩
      refine .inr ⟨forall_windowsOnly_iff.mpr hwindows, .inl ?_⟩
      exact validateNotBlank_eq_error_iff.mpr ⟨hblank, rfl⟩
  | nulInManifest hlisted hwindows hnul =>
      have hspeaks : Speaks c.manifestName := ⟨'\x00', hnul, by decide⟩
      refine (validate_eq_error_iff_of_packages hlisted.packages_ne_nil).mpr ?_
      refine .inr ⟨hlisted.packages_spelled, .inr ⟨hlisted.packages_distinct, ?_⟩⟩
      refine .inr ⟨forall_windowsOnly_iff.mpr hwindows, .inr ⟨hspeaks, .inl ?_⟩⟩
      exact validatePath_eq_error_iff.mpr (.inr ⟨hnul, rfl⟩)
  | blankPrefix hlisted hwindows hspeaks hnul hfirst =>
      refine (validate_eq_error_iff_of_packages hlisted.packages_ne_nil).mpr ?_
      refine .inr ⟨hlisted.packages_spelled, .inr ⟨hlisted.packages_distinct, ?_⟩⟩
      refine .inr ⟨forall_windowsOnly_iff.mpr hwindows, .inr ⟨hspeaks, .inr ⟨?_, ?_⟩⟩⟩
      · exact validatePath_eq_ok_iff.mpr ⟨hspeaks.ne_empty, hnul⟩
      · exact validatePrefixes_eq_error_iff.mpr ⟨_, hfirst, rfl⟩

theorem validate_eq_ok_iff_wellFormed : c.validate = .ok () ↔ c.WellFormed :=
  validate_eq_ok_iff.trans accepted_iff

theorem validate_eq_error_iff : c.validate = .error fault ↔ c.EarliestOffence fault :=
  ⟨earliestOffence_of_validate, validate_of_earliestOffence⟩

/-- Validation accepts exactly the well-formed configurations, and refuses any other one with the
fault of its earliest offence. -/
theorem validate_names_earliest (c : Config) :
    (c.validate = .ok () ↔ c.WellFormed) ∧
      ∀ fault, c.validate = .error fault ↔ c.EarliestOffence fault :=
  ⟨validate_eq_ok_iff_wellFormed, fun _ => validate_eq_error_iff⟩

/-- A configuration with one offence against each rule from the repeated package on. -/
def crowded : Config where
  packages := ["core", "a", ".\\a//", "core/", "./core"]
  windowsOnly := some ["ok", "../out"]
  manifest := some "\u3000"
  manifestCommands := some [" "]

theorem crowded_refused :
    crowded.validate = .error (.invalidValue "workspace.packages" "a" .repeated) ∧
      ¬ crowded.WellFormed := by
  have hspelled : ∀ d ∈ crowded.packages, WellSpelled d := by
    intro d hd
    refine isDirectoryPath_iff.mp (directoryOffence?_eq_none_iff.mp ?_)
    revert d
    decide +kernel
  have hlist : crowded.packages = ["core", "a"] ++ ".\\a//" :: ["core/", "./core"] := rfl
  have hform : Directory.normalForm ".\\a//" = "a" := by decide +kernel
  have hoffence : crowded.EarliestOffence (.invalidValue "workspace.packages" "a" .repeated) :=
    hform ▸ .repeatedPackage hspelled hlist (by decide +kernel) (by decide +kernel)
  obtain ⟨haccepted, hrefused⟩ := validate_names_earliest crowded
  have hfault := (hrefused _).mpr hoffence
  refine ⟨hfault, fun h => ?_⟩
  rw [haccepted.mpr h] at hfault
  simp at hfault

end Config

end PackageSweep
