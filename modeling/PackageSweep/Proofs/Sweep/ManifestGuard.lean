import PackageSweep.Proofs.Acceptance
import PackageSweep.Proofs.Sweep.Visits
import PackageSweep.Proofs.World.Existence

/-!
# Manifest commands and their manifests

A manifest command runs in a package only when the path of its manifest exists at that moment. This
says that the package has a manifest inside it as long as the manifest is a relative path that never
climbs above the package. Validation lets other manifests through, and with each of those that is
not too long to exist at all, some sweep runs a manifest command in a package without one.
-/

namespace PackageSweep

namespace Sweep

/-- Whenever the sweep calls its runner for a package, the package has its manifest inside it, in
the world that the calls so far have left. -/
def ManifestGuarded (s : Sweep) (run : Runner) (w : World) : Prop :=
  ∀ before call later, (s.run run w).calls = before ++ call :: later →
    ∃ d ∈ s.config.packages, call = s.call d ∧
      (run.after w before).HoldsInside (Directory.resolve s.root d) s.config.manifestName

variable {s : Sweep} {run : Runner} {d : String} {w : World}

theorem exists_manifestPath_of_skip? (hcommand : s.config.isManifestCommand s.command = true)
    (h : s.skip? d w = none) : w.exists? (s.config.manifestPath s.root d) = true := by
  cases hexists : w.exists? (s.config.manifestPath s.root d) with
  | true => rfl
  | false =>
      rw [skip?, skipReason] at h
      split at h
      · simp at h
      · simp [hcommand, hexists] at h

theorem skip?_eq_none_of_exists (hplatform : s.platform.isWindows = true)
    (h : w.exists? (s.config.manifestPath s.root d) = true) : s.skip? d w = none := by
  simp [skip?, skipReason, hplatform, h]

theorem manifestGuarded_of_staysInside (hcommand : s.config.isManifestCommand s.command = true)
    (hstays : Path.staysInside s.config.manifestName.toList = true) (run : Runner) (w : World) :
    s.ManifestGuarded run w := by
  intro before call later hcalls
  rw [run_calls] at hcalls
  obtain ⟨xs, d, ys, -, hlist, -, -, -, hskip, rfl⟩ := exists_of_visit_calls hcalls
  refine ⟨d, by simp [hlist], rfl, ?_⟩
  exact World.holdsInside_of_exists? hstays (exists_manifestPath_of_skip? hcommand hskip)

end Sweep

/-- A root that no directory can be: its one name is too long. -/
def Directory.nowhere : String := String.ofList (List.replicate 256 'a')

theorem World.not_reach_nowhere {directory : String} {place : Place}
    (h : Path.isAbsolute directory.toList = false) (w : World) :
    w.reach (Directory.resolve Directory.nowhere directory) ≠ .ok place := by
  have htext : Directory.nowhere.toList = List.replicate 256 'a' := String.toList_ofList
  have hname : Path.names Directory.nowhere.toList = [Directory.nowhere.toList] :=
    Path.names_eq_singleton (htext ▸ rfl) (htext ▸ by decide)
  have hmem : Directory.nowhere.toList ∈
      Path.names (Directory.resolve Directory.nowhere directory).toList := by
    rw [Directory.names_resolve h, hname]
    exact List.mem_append_left _ (List.mem_singleton_self _)
  intro hreach
  have hshort := names_short_of_reach hreach _ hmem
  rw [String.ofList_toList] at hshort
  exact absurd hshort (by decide +kernel)

theorem Config.manifestPath_of_absolute {c : Config}
    (h : Path.isAbsolute c.manifestName.toList = true) (root directory : String) :
    c.manifestPath root directory = c.manifestName := by
  rw [manifestPath, Directory.entry, Path.join, if_pos h, String.ofList_toList]

namespace Sweep

variable {s : Sweep} {run : Runner} {d : String} {w : World}

/-- A guarded sweep that calls for any package at all can do so only with a manifest that does not
climb, and from a package that can be reached. -/
theorem ManifestGuarded.exists_reach (h : s.ManifestGuarded run w)
    (hcalls : (s.run run w).calls ≠ []) :
    ∃ d ∈ s.config.packages, ∃ place below,
      w.reach (Directory.resolve s.root d) = .ok place ∧
      Path.descend [] (Path.names s.config.manifestName.toList) = some below := by
  obtain ⟨call, later, hcons⟩ := List.exists_cons_of_ne_nil hcalls
  obtain ⟨d, hd, -, place, below, entry, hreach, hbelow, -⟩ := h [] call later hcons
  exact ⟨d, hd, place, below, hreach, hbelow⟩

theorem calls_ne_nil_of_exists (hd : d ∈ s.config.packages) (hdry : s.dry = false)
    (hplatform : s.platform.isWindows = true)
    (hexists : w.exists? (s.config.manifestPath s.root d) = true) :
    (s.run run w).calls ≠ [] := by
  rw [run_calls]
  exact visit_calls_ne_nil hd hdry (skip?_eq_none_of_exists hplatform hexists)

end Sweep

/-- Manifest commands are kept out of packages without the manifest, in all sweeps of a
configuration, exactly if its manifest stays inside each package or is too long to exist. -/
theorem Config.manifest_guard_iff (c : Config) (command : String) (hvalid : c.validate = .ok ())
    (hcommand : c.isManifestCommand command = true) :
    (∀ platform root run w, (Sweep.mk c platform root command false).ManifestGuarded run w) ↔
      Path.staysInside c.manifestName.toList = true ∨
        ∀ root, ∀ d ∈ c.packages, ¬ Path.Fits (c.manifestPath root d) := by
  constructor
  · intro hguarded
    refine Decidable.or_iff_not_imp_left.mpr ?_
    intro hleaves root d hd hfits
    obtain ⟨w, hexists⟩ := World.exists_exists?_iff.mpr hfits
    cases habs : Path.isAbsolute c.manifestName.toList with
    | true =>
        -- Every package has the same manifest path, also one that cannot be reached.
        let s := Sweep.mk c ⟨"windows"⟩ Directory.nowhere command false
        have hcalls : (s.run .idle w).calls ≠ [] := by
          refine Sweep.calls_ne_nil_of_exists hd rfl rfl ?_
          rwa [manifestPath_of_absolute habs] at hexists ⊢
        obtain ⟨e, he, place, -, hreach, -⟩ :=
          (hguarded ⟨"windows"⟩ Directory.nowhere .idle w).exists_reach hcalls
        have hrel := ((validate_eq_ok_iff.mp hvalid).packages_path e he).relative
        exact World.not_reach_nowhere hrel w hreach
    | false =>
        -- The manifest climbs above the package.
        let s := Sweep.mk c ⟨"windows"⟩ root command false
        have hcalls : (s.run .idle w).calls ≠ [] :=
          Sweep.calls_ne_nil_of_exists hd rfl rfl hexists
        obtain ⟨e, he, place, below, -, hbelow⟩ :=
          (hguarded ⟨"windows"⟩ root .idle w).exists_reach hcalls
        have hbelow' : Path.descend [] (Path.names c.manifestName.toList) = some below := hbelow
        exact hleaves (by simp [Path.staysInside, habs, hbelow'])
  · intro hcondition platform root run w
    let s := Sweep.mk c platform root command false
    have hcommand' : s.config.isManifestCommand s.command = true := hcommand
    rcases hcondition with hstays | hlong
    · exact s.manifestGuarded_of_staysInside hcommand' hstays run w
    · intro before call later hcalls
      rw [Sweep.run_calls] at hcalls
      obtain ⟨xs, d, ys, -, hlist, -, -, -, hskip, -⟩ := Sweep.exists_of_visit_calls hcalls
      have hd : d ∈ c.packages := hlist ▸ List.mem_append_right xs List.mem_cons_self
      have hexists := Sweep.exists_manifestPath_of_skip? hcommand' hskip
      exact absurd (World.fits_of_exists? hexists) (hlong root d hd)

/-- A manifest that climbs, but only back into the package. -/
def Config.winding : Config where
  packages := ["a"]
  manifest := some "./crate/../Cargo.toml"

theorem Config.winding_guarded :
    Config.winding.validate = .ok () ∧ Config.winding.isManifestCommand "cargo build" = true ∧
      ∀ platform root run w,
        (Sweep.mk Config.winding platform root "cargo build" false).ManifestGuarded run w := by
  have hvalid : Config.winding.validate = .ok () := rfl
  have hcommand : Config.winding.isManifestCommand "cargo build" = true := by decide +kernel
  refine ⟨hvalid, hcommand, ?_⟩
  exact (Config.manifest_guard_iff Config.winding "cargo build" hvalid hcommand).mpr
    (.inl (by decide +kernel))

/-- A manifest that is the same for every package, and inside none. -/
def Config.outside : Config where
  packages := ["a"]
  manifest := some "/dev/null"

/-- A world with a package that is empty. -/
def World.bare : World where
  tree := ⟨[(["a"], .directory), (["dev"], .directory), (["dev", "null"], .device)]⟩
  here := []
  environment := .empty

theorem Sweep.outside_unguarded :
    Config.outside.validate = .ok () ∧ Config.outside.isManifestCommand "cargo build" = true ∧
      ((Sweep.mk Config.outside ⟨"linux"⟩ "." "cargo build" false).run .idle .bare).calls =
        [⟨"cargo build", "./a"⟩] ∧
      ¬ (Sweep.mk Config.outside ⟨"linux"⟩ "." "cargo build" false).ManifestGuarded
        .idle .bare := by
  have hcalls :
      ((Sweep.mk Config.outside ⟨"linux"⟩ "." "cargo build" false).run .idle .bare).calls =
        [⟨"cargo build", "./a"⟩] := by
    decide +kernel
  refine ⟨rfl, by decide +kernel, hcalls, ?_⟩
  intro hguarded
  obtain ⟨d, hd, -, place, below, entry, hreach, hbelow, -, hentry⟩ := hguarded [] _ [] hcalls
  obtain rfl : d = "a" := List.mem_singleton.mp hd
  have hplace : World.bare.reach (Directory.resolve "." "a") = .ok ["a"] := by rfl
  have hbelow' : Path.descend [] (Path.names Config.outside.manifestName.toList) =
      some ["dev".toList, "null".toList] := by decide +kernel
  obtain rfl : ["a"] = place := Except.ok.inj (hplace.symm.trans hreach)
  obtain rfl : ["dev".toList, "null".toList] = below := Option.some.inj (hbelow'.symm.trans hbelow)
  have hmissing : World.bare.tree.entryAt? ["a", "dev", "null"] = none := by decide +kernel
  exact absurd (hmissing.symm.trans hentry) (by simp)

end PackageSweep
