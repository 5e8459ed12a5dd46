import PackageSweep.Config.Validation
import PackageSweep.Proofs.Result
import PackageSweep.Proofs.Spelling

/-!
# Accepted configurations

Validation is a chain of checks that stops at the first offence. What it lets through is said here
as a property of the configuration alone: each package and each Windows-only directory is a relative
path that never climbs, no two packages have one normal form, and the manifest and the beginnings of
manifest commands say something.
-/

namespace PackageSweep

/-- A text that names a directory below the root. -/
structure IsDirectoryPath (directory : String) : Prop where
  ne_empty : directory ≠ ""
  nul_notMem : '\x00' ∉ directory.toList
  relative : Path.isAbsolute directory.toList = false
  dots_notMem : ['.', '.'] ∉ Path.names directory.toList

/-- A configuration that a sweep may work with. -/
structure Config.Accepted (c : Config) : Prop where
  packages_ne_nil : c.packages ≠ []
  packages_path : ∀ d ∈ c.packages, IsDirectoryPath d
  packages_nodup : (c.packages.map Directory.normalForm).Nodup
  windowsOnly_path : ∀ d ∈ c.windowsOnly.getD [], IsDirectoryPath d
  manifest_not_blank : Text.allBlank c.manifestName.toList = false
  manifest_nul_notMem : '\x00' ∉ c.manifestName.toList
  manifestPrefixes_not_blank : ∀ p ∈ c.manifestPrefixes, Text.allBlank p.toList = false

theorem IsDirectoryPath.isPlain_of_mem_names {directory : String} {name : List Char}
    (h : IsDirectoryPath directory) (hn : name ∈ Path.names directory.toList) :
    Path.IsPlain name := by
  obtain ⟨hne, hdot⟩ := Path.isIdle_eq_false_iff.mp (Path.isIdle_of_mem_names hn)
  exact {
    ne_nil := hne
    ne_dot := hdot
    ne_dots := fun hdots => h.dots_notMem (hdots ▸ hn)
    slash_notMem := Path.slash_notMem_of_mem_names hn
    nul_notMem := fun hnul => h.nul_notMem (Path.mem_of_mem_names hn hnul) }

theorem check_eq_ok_iff {offence? : String → Option Offence} {field value : String} :
    check offence? field value = .ok () ↔ offence? value = none := by
  cases h : offence? value <;> simp [check, h]

theorem pathOffence?_eq_none_iff {value : String} :
    pathOffence? value = none ↔ value ≠ "" ∧ '\x00' ∉ value.toList := by
  by_cases hempty : value = "" <;> by_cases hnul : '\x00' ∈ value.toList <;>
    simp [pathOffence?, hempty, hnul]

theorem directoryOffence?_eq_none_iff {value : String} :
    directoryOffence? value = none ↔ IsDirectoryPath value := by
  constructor
  · intro h
    cases hpath : pathOffence? value with
    | some o => simp [directoryOffence?, hpath] at h
    | none =>
        obtain ⟨hne, hnul⟩ := pathOffence?_eq_none_iff.mp hpath
        have hbelow : staysBelow value.toList = true := by
          simpa [directoryOffence?, hpath] using h
        simp only [staysBelow, Bool.and_eq_true, Bool.not_eq_true', List.contains_eq_mem,
          decide_eq_false_iff_not] at hbelow
        exact ⟨hne, hnul, hbelow.1, hbelow.2⟩
  · rintro ⟨hne, hnul, hrel, hdots⟩
    have hpath := pathOffence?_eq_none_iff.mpr ⟨hne, hnul⟩
    simp [directoryOffence?, hpath, staysBelow, hrel, hdots]

theorem blankOffence?_eq_none_iff {value : String} :
    blankOffence? value = none ↔ Text.allBlank value.toList = false := by
  simp [blankOffence?]

theorem firstRepeated?_eq_none_iff {seen values : List String} :
    firstRepeated? seen values = none ↔ values.Nodup ∧ ∀ v ∈ values, v ∉ seen := by
  induction values generalizing seen with
  | nil => simp [firstRepeated?]
  | cons v vs ih =>
      by_cases hv : v ∈ seen
      · simp [firstRepeated?, hv]
      · simp only [firstRepeated?, List.contains_eq_mem, hv, decide_false, Bool.false_eq_true,
          if_false, ih, List.nodup_cons]
        constructor
        · rintro ⟨hnodup, hnew⟩
          refine ⟨⟨fun hmem => hnew v hmem List.mem_cons_self, hnodup⟩, ?_⟩
          exact List.forall_mem_cons.mpr
            ⟨hv, fun x hx hseen => hnew x hx (List.mem_cons_of_mem v hseen)⟩
        · rintro ⟨⟨hfirst, hnodup⟩, hnew⟩
          refine ⟨hnodup, fun x hx hseen => ?_⟩
          rcases List.mem_cons.mp hseen with rfl | hseen
          · exact hfirst hx
          · exact hnew x (List.mem_cons_of_mem v hx) hseen

theorem validateUnique_eq_ok_iff {field : String} {values : List String} :
    validateUnique field values = .ok () ↔ values.Nodup := by
  have h : firstRepeated? [] values = none ↔ _ := firstRepeated?_eq_none_iff
  cases hr : firstRepeated? [] values <;> simp_all [validateUnique]

theorem validateEach_eq_ok_iff {validate : String → Except Fault Unit} {values : List String} :
    validateEach validate values = .ok () ↔ ∀ v ∈ values, validate v = .ok () := by
  induction values with
  | nil => simp [validateEach]
  | cons v vs ih =>
      rw [validateEach, Result.andThen_eq_ok_iff, ih, List.forall_mem_cons]

/-- Validation accepts exactly the configurations that a sweep may work with. -/
theorem Config.validate_eq_ok_iff {c : Config} : c.validate = .ok () ↔ c.Accepted := by
  by_cases hnil : c.packages = []
  · rw [validate, if_pos hnil]
    constructor
    · intro h
      exact absurd (Result.andThen_eq_ok_iff.mp h).1 Result.throw_ne_ok
    · intro h
      exact absurd hnil h.packages_ne_nil
  · rw [validate, if_neg hnil]
    simp only [Result.andThen_eq_ok_iff, validateEach_eq_ok_iff, validateUnique_eq_ok_iff,
      validateDirectory, validateNotBlank, validatePath, check_eq_ok_iff,
      directoryOffence?_eq_none_iff, blankOffence?_eq_none_iff, pathOffence?_eq_none_iff]
    constructor
    · rintro ⟨hpackages, hnodup, hwindows, hblank, ⟨-, hnul⟩, hprefixes⟩
      exact ⟨hnil, hpackages, hnodup, hwindows, hblank, hnul, hprefixes⟩
    · intro h
      have hne : c.manifestName ≠ "" := by
        intro hempty
        have hblank := h.manifest_not_blank
        rw [hempty] at hblank
        exact absurd hblank (by decide)
      exact ⟨h.packages_path, h.packages_nodup, h.windowsOnly_path, h.manifest_not_blank,
        ⟨hne, h.manifest_nul_notMem⟩, h.manifestPrefixes_not_blank⟩

end PackageSweep
