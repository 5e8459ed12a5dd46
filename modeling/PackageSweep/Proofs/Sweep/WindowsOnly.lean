import PackageSweep.Proofs.Acceptance
import PackageSweep.Proofs.Sweep.Visits

/-!
# Packages that build on Windows only

The rule compares normal forms, while commands run at resolved paths. Since equal paths have equal
normal forms, a package that shares its path with a Windows-only entry, or its normal form, is
caught by the rule in every spelling. On other platforms the rule is the first to be looked at, in
whatever world the sweep comes to the package.
-/

namespace PackageSweep

namespace Config

/-- The directories that build on Windows only, as they are written. -/
def windowsOnlyEntries (c : Config) : List String := c.windowsOnly.getD defaultWindowsOnly

variable {c : Config} {d : String}

theorem windowsOnlyDirectories_eq (c : Config) :
    c.windowsOnlyDirectories = c.windowsOnlyEntries.map Directory.normalForm := by
  cases h : c.windowsOnly with
  | some directories => simp [windowsOnlyDirectories, windowsOnlyEntries, h]
  | none =>
      simp only [windowsOnlyDirectories, windowsOnlyEntries, h, Option.getD_none]
      decide +kernel

theorem isWindowsOnly_iff :
    c.isWindowsOnly d = true ↔
      ∃ x ∈ c.windowsOnlyEntries, Directory.normalForm d = Directory.normalForm x := by
  simp only [isWindowsOnly, windowsOnlyDirectories_eq, List.contains_eq_mem, decide_eq_true_eq,
    List.mem_map]
  constructor
  · rintro ⟨x, hx, hform⟩
    exact ⟨x, hx, hform.symm⟩
  · rintro ⟨x, hx, hform⟩
    exact ⟨x, hx, hform.symm⟩

theorem Accepted.windowsOnlyEntries_relative (h : c.Accepted) {x : String}
    (hx : x ∈ c.windowsOnlyEntries) : Path.isAbsolute x.toList = false := by
  cases hw : c.windowsOnly with
  | some directories =>
      rw [windowsOnlyEntries, hw] at hx
      exact (h.windowsOnly_path x (by rwa [hw])).relative
  | none =>
      rw [windowsOnlyEntries, hw] at hx
      obtain rfl := List.mem_singleton.mp hx
      decide +kernel

end Config

namespace Sweep

/-- A directory is a Windows-only entry by the path where commands run, or by its normal form. -/
def IsWindowsOnly (s : Sweep) (d : String) : Prop :=
  ∃ x ∈ s.config.windowsOnlyEntries,
    Directory.resolve s.root d = Directory.resolve s.root x ∨
      Directory.normalForm d = Directory.normalForm x

variable {s : Sweep} {run : Runner} {d : String} {w : World}

theorem isWindowsOnly_config (haccepted : s.config.Accepted) (hd : d ∈ s.config.packages)
    (h : s.IsWindowsOnly d) : s.config.isWindowsOnly d = true := by
  obtain ⟨x, hx, hpath | hform⟩ := h
  · refine Config.isWindowsOnly_iff.mpr ⟨x, hx, ?_⟩
    exact Directory.normalForm_eq_of_resolve_eq (haccepted.packages_path d hd).relative
      (haccepted.windowsOnlyEntries_relative hx) hpath
  · exact Config.isWindowsOnly_iff.mpr ⟨x, hx, hform⟩

theorem skip?_of_isWindowsOnly (hplatform : s.platform.isWindows = false)
    (h : s.config.isWindowsOnly d = true) (w : World) : s.skip? d w = some .windowsOnly := by
  simp [skip?, skipReason, hplatform, h]

theorem handle_of_isWindowsOnly (hplatform : s.platform.isWindows = false)
    (h : s.config.isWindowsOnly d = true) (run : Runner) (w : World) :
    s.handle run d w =
      ⟨.ok (.skipped .windowsOnly), w, [], [.event (.skipped d .windowsOnly)]⟩ := by
  rw [handle, skip?_of_isWindowsOnly hplatform h]

theorem not_isWindowsOnly_of_call (haccepted : s.config.Accepted)
    (hplatform : s.platform.isWindows = false) {call : Call}
    (hcall : call ∈ (s.run run w).calls) :
    ∃ d ∈ s.config.packages, call = s.call d ∧ ¬ s.IsWindowsOnly d := by
  rw [run_calls] at hcall
  obtain ⟨before, later, hsplit⟩ := List.append_of_mem hcall
  obtain ⟨xs, d, ys, -, hlist, -, -, -, hskip, rfl⟩ := exists_of_visit_calls hsplit
  have hd : d ∈ s.config.packages := by simp [hlist]
  refine ⟨d, hd, rfl, fun h => ?_⟩
  rw [skip?_of_isWindowsOnly hplatform (isWindowsOnly_config haccepted hd h)] at hskip
  simp at hskip

/-- Off Windows, no call has the path of a Windows-only entry and none is made for a package that is
one; such a package is reported as such as soon as the sweep comes to it, and in the report. -/
theorem windowsOnly_never_runs (s : Sweep) (run : Runner) (w : World)
    (hvalid : s.config.validate = .ok ()) (hplatform : s.platform.isWindows = false) :
    (∀ call ∈ (s.run run w).calls, ∀ x ∈ s.config.windowsOnlyEntries,
        call.path ≠ Directory.resolve s.root x) ∧
      (∀ d ∈ s.config.packages, s.IsWindowsOnly d → s.call d ∉ (s.run run w).calls) ∧
      (∀ before d later results, s.config.packages = before ++ d :: later → s.IsWindowsOnly d →
        (s.visit run before w).result = .ok results →
        (s.visit run (before ++ [d]) w).result =
            .ok (results ++ [⟨d, .skipped .windowsOnly⟩]) ∧
          ∃ rest, (s.run run w).trace = .event s.opening :: ((s.visit run before w).trace ++
            .event (.executing s.command d) :: .event (.skipped d .windowsOnly) :: rest)) ∧
      ∀ report, (s.run run w).result = .ok report → ∀ r ∈ report.results,
        s.IsWindowsOnly r.directory → r.outcome = .skipped .windowsOnly := by
  have haccepted := Config.validate_eq_ok_iff.mp hvalid
  refine ⟨?_, ?_, ?_, ?_⟩
  · intro call hcall x hx hpath
    obtain ⟨d, -, rfl, hnot⟩ := not_isWindowsOnly_of_call haccepted hplatform hcall
    exact hnot ⟨x, hx, .inl hpath⟩
  · intro d hd h hcall
    obtain ⟨e, he, hde, hnot⟩ := not_isWindowsOnly_of_call haccepted hplatform hcall
    obtain ⟨x, hx, hform⟩ := Config.isWindowsOnly_iff.mp (isWindowsOnly_config haccepted hd h)
    have hpath : Directory.resolve s.root d = Directory.resolve s.root e :=
      congrArg Call.path hde
    refine hnot ⟨x, hx, .inr ?_⟩
    rw [← hform]
    exact (Directory.normalForm_eq_of_resolve_eq (haccepted.packages_path d hd).relative
      (haccepted.packages_path e he).relative hpath).symm
  · intro before d later results hlist h hbefore
    have hd : d ∈ s.config.packages := by simp [hlist]
    have hone := handle_of_isWindowsOnly hplatform (isWindowsOnly_config haccepted hd h) run
    constructor
    · rw [visit_append_of_ok hbefore, visit_cons_of_ok (by rw [hone])]
      rfl
    · obtain ⟨summary, htrace⟩ := exists_run_trace s run w
      rw [htrace, hlist, visit_append_of_ok hbefore, visit_cons_of_ok (by rw [hone]), hone]
      refine ⟨(s.visit run later (s.visit run before w).world).trace ++ summary, ?_⟩
      simp only [List.append_assoc, List.cons_append, List.nil_append]
  · intro report hreport r hr h
    obtain ⟨results, hresults, rfl⟩ := run_eq_ok_iff.mp hreport
    obtain ⟨hd, v, hone⟩ := exists_of_mem_visit_results hresults hr
    rw [handle_of_isWindowsOnly hplatform (isWindowsOnly_config haccepted hd h)] at hone
    exact (Except.ok.inj hone).symm

/-- Two Windows-only packages, each spelled in another way than its entry. -/
def respelled : Sweep where
  config := {
    packages := ["core", ".//drivers/./gui/", "drivers\\disk"]
    windowsOnly := some ["drivers/gui", "./drivers/disk"] }
  platform := ⟨"macos"⟩
  root := "/ws"
  command := "make"

theorem respelled_never_runs :
    respelled.config.validate = .ok () ∧ respelled.platform.isWindows = false ∧
      respelled.IsWindowsOnly ".//drivers/./gui/" ∧ respelled.IsWindowsOnly "drivers\\disk" ∧
      (∀ call ∈ (respelled.run .idle .empty).calls, call.path ≠ "/ws/drivers/gui") ∧
      respelled.call "drivers\\disk" ∉ (respelled.run .idle .empty).calls ∧
      (respelled.visit .idle ["core", ".//drivers/./gui/"] .empty).result =
        .ok [⟨"core", .executed .zero⟩, ⟨".//drivers/./gui/", .skipped .windowsOnly⟩] := by
  have hvalid : respelled.config.validate = .ok () := by rfl
  have hgui : respelled.IsWindowsOnly ".//drivers/./gui/" :=
    ⟨"drivers/gui", by decide, .inl (by decide +kernel)⟩
  have hdisk : respelled.IsWindowsOnly "drivers\\disk" :=
    ⟨"./drivers/disk", by decide, .inr (by decide +kernel)⟩
  obtain ⟨hpath, hcall, hreport, -⟩ :=
    windowsOnly_never_runs respelled .idle .empty hvalid rfl
  have hentry : Directory.resolve respelled.root "drivers/gui" = "/ws/drivers/gui" := by
    decide +kernel
  refine ⟨hvalid, rfl, hgui, hdisk, ?_, hcall _ (by decide) hdisk, ?_⟩
  · intro call hmem
    exact hentry ▸ hpath call hmem "drivers/gui" (by decide)
  · exact (hreport ["core"] ".//drivers/./gui/" ["drivers\\disk"] [⟨"core", .executed .zero⟩] rfl
      hgui rfl).1

end Sweep

end PackageSweep
