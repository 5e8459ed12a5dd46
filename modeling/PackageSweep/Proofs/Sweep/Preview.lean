import Mathlib.Data.List.Induction
import PackageSweep.Proofs.Sweep.Visits

/-!
# Dry sweeps as previews

A dry sweep makes no call, so it judges every package in the world that it starts from. Of a world a
judgement sees no more than whether the package has something at its manifest path. So as long as no
call of the real sweep makes any of these paths appear or vanish, both sweeps judge alike, and the
dry report says of each package what the real sweep does, up to where that one fails.
-/

namespace PackageSweep

/-- What a dry sweep says where a real one has this outcome. -/
def Outcome.foreseen : Outcome → Outcome
  | .executed _ => .planned
  | .skipped reason => .skipped reason
  | .planned => .planned

def PackageResult.foreseen (r : PackageResult) : PackageResult := ⟨r.directory, r.outcome.foreseen⟩

def Report.foreseen (r : Report) : Report := ⟨r.command, r.results.map PackageResult.foreseen⟩

namespace Sweep

/-- The same sweep, but a dry one. -/
def rehearsal (s : Sweep) : Sweep := { s with dry := true }

/-- The same packages have something at their manifest path. -/
def SameManifests (s : Sweep) (v w : World) : Prop :=
  ∀ d ∈ s.config.packages,
    v.exists? (s.config.manifestPath s.root d) = w.exists? (s.config.manifestPath s.root d)

/-- No call of the sweep makes the manifest path of a package appear or vanish. -/
def KeepsManifests (s : Sweep) (run : Runner) (w : World) : Prop :=
  ∀ before call later, (s.run run w).calls = before ++ call :: later →
    s.SameManifests (run call (run.after w before)).world (run.after w before)

/-- What a dry sweep says of a package in a world. -/
def forecast (s : Sweep) (w : World) (d : String) : PackageResult where
  directory := d
  outcome :=
    match s.skip? d w with
    | some reason => .skipped reason
    | none => .planned

variable {s : Sweep} {run : Runner} {d : String} {ds : List String} {v w : World}

/-! ## Dry sweeps -/

theorem forecast_of_some {reason : SkipReason} (h : s.skip? d w = some reason) :
    s.forecast w d = ⟨d, .skipped reason⟩ := by
  rw [forecast, h]

theorem forecast_of_none (h : s.skip? d w = none) : s.forecast w d = ⟨d, .planned⟩ := by
  rw [forecast, h]

theorem handle_rehearsal (s : Sweep) (run : Runner) (d : String) (w : World) :
    ∃ outcome trace, s.rehearsal.handle run d w = ⟨.ok outcome, w, [], trace⟩ ∧
      s.forecast w d = ⟨d, outcome⟩ := by
  generalize hone : s.rehearsal.handle run d w = one
  cases handled_of_eq hone with
  | skipped hskip => exact ⟨_, _, rfl, forecast_of_some hskip⟩
  | planned hskip _ => exact ⟨_, _, rfl, forecast_of_none hskip⟩
  | faulted _ hdry _ => exact absurd hdry (by simp [rehearsal])
  | failed _ hdry _ _ => exact absurd hdry (by simp [rehearsal])
  | executed _ hdry _ _ => exact absurd hdry (by simp [rehearsal])

theorem visit_rehearsal (s : Sweep) (run : Runner) (ds : List String) (w : World) :
    (s.rehearsal.visit run ds w).result = .ok (ds.map (s.forecast w)) ∧
      (s.rehearsal.visit run ds w).world = w ∧ (s.rehearsal.visit run ds w).calls = [] := by
  induction ds with
  | nil => exact ⟨rfl, rfl, rfl⟩
  | cons d ds ih =>
      obtain ⟨hresult, hworld, hcalls⟩ := ih
      obtain ⟨outcome, trace, hone, hforecast⟩ := handle_rehearsal s run d w
      rw [visit_cons_of_ok (by rw [hone]), hone]
      refine ⟨?_, hworld, hcalls⟩
      rw [hresult, List.map_cons, hforecast]
      rfl

theorem run_rehearsal (s : Sweep) (run : Runner) (w : World) :
    (s.rehearsal.run run w).result = .ok ⟨s.command, s.config.packages.map (s.forecast w)⟩ := by
  obtain ⟨hresult, -, -⟩ := visit_rehearsal s run s.config.packages w
  exact run_eq_ok_iff.mpr ⟨_, hresult, rfl⟩

/-! ## Judging in worlds with the same manifests -/

theorem sameManifests_refl (s : Sweep) (w : World) : s.SameManifests w w := fun _ _ => rfl

theorem SameManifests.trans {u : World} (huv : s.SameManifests u v) (hvw : s.SameManifests v w) :
    s.SameManifests u w := by
  intro d hd
  exact (huv d hd).trans (hvw d hd)

/-- The manifest path is all that a judgement looks at. -/
theorem SameManifests.skip?_eq (h : s.SameManifests v w) (hd : d ∈ s.config.packages) :
    s.skip? d v = s.skip? d w := by
  rw [skip?, skip?, skipReason, skipReason, h d hd]

/-- A sweep that keeps the manifests comes only through worlds with those that it started with. -/
theorem KeepsManifests.sameManifests_after (h : s.KeepsManifests run w) {before later : List Call}
    (hcalls : (s.run run w).calls = before ++ later) : s.SameManifests (run.after w before) w := by
  induction before using List.reverseRecOn generalizing later with
  | nil => exact sameManifests_refl s w
  | append_singleton before call ih =>
      have hsplit : (s.run run w).calls = before ++ call :: later := by
        rw [hcalls, List.append_assoc, List.singleton_append]
      have hstep : s.SameManifests (run.after w (before ++ [call])) (run.after w before) := by
        rw [Runner.after_append, Runner.after_cons, Runner.after_nil]
        exact h before call later hsplit
      exact hstep.trans (ih hsplit)

/-- Where a real sweep does not fail at a package, a dry one foresees what it does. -/
theorem forecast_eq_of_handle_ok {outcome : Outcome} (hsame : s.skip? d v = s.skip? d w)
    (h : (s.handle run d v).result = .ok outcome) :
    s.forecast w d = PackageResult.foreseen ⟨d, outcome⟩ := by
  generalize hone : s.handle run d v = one at h
  cases handled_of_eq hone with
  | skipped hskip =>
      obtain rfl := Except.ok.inj h
      exact forecast_of_some (hsame.symm.trans hskip)
  | planned hskip _ =>
      obtain rfl := Except.ok.inj h
      exact forecast_of_none (hsame.symm.trans hskip)
  | faulted => simp at h
  | failed => simp at h
  | executed hskip _ _ _ =>
      obtain rfl := Except.ok.inj h
      exact forecast_of_none (hsame.symm.trans hskip)

/-- Where a real sweep fails at a package, a dry one plans it. -/
theorem forecast_eq_of_handle_error {fault : Fault} (hsame : s.skip? d v = s.skip? d w)
    (h : (s.handle run d v).result = .error fault) : s.forecast w d = ⟨d, .planned⟩ := by
  rcases handle_calls s run d v with ⟨-, outcome, hok⟩ | ⟨-, -, hskip⟩
  · simp [hok] at h
  · exact forecast_of_none (hsame.symm.trans hskip)

/-- Visits that ended well did what is foreseen in a world with the manifests of all the worlds that
they came through. -/
theorem map_forecast_of_visit_ok {results : List PackageResult}
    (hpackages : ∀ d ∈ ds, d ∈ s.config.packages)
    (hsame : ∀ before later, (s.visit run ds v).calls = before ++ later →
      s.SameManifests (run.after v before) w)
    (h : (s.visit run ds v).result = .ok results) :
    ds.map (s.forecast w) = results.map PackageResult.foreseen := by
  induction ds generalizing v results with
  | nil =>
      obtain rfl : [] = results := Except.ok.inj h
      rfl
  | cons d ds ih =>
      obtain ⟨hd, hds⟩ := List.forall_mem_cons.mp hpackages
      obtain ⟨outcome, rest, hone, hrest, rfl⟩ := exists_of_visit_cons_ok h
      rw [visit_cons_of_ok hone] at hsame
      have hskip : s.skip? d v = s.skip? d w := (hsame [] _ rfl).skip?_eq hd
      have hsame' : ∀ before later, (s.visit run ds (s.handle run d v).world).calls =
          before ++ later → s.SameManifests (run.after (s.handle run d v).world before) w := by
        intro before later hcalls
        have hsplit := hsame ((s.handle run d v).calls ++ before) later
          (by dsimp only; rw [hcalls, List.append_assoc])
        rwa [Runner.after_append, ← handle_world] at hsplit
      rw [List.map_cons, List.map_cons, forecast_eq_of_handle_ok hskip hone,
        ih hds hsame' hrest]

/-- A dry sweep makes no call, changes nothing and reports on every package. If no call of the real
sweep makes a manifest appear or vanish, the dry report is the real one with each execution planned,
and up to the package where the real sweep fails it is what that sweep had reached, with this
package planned. -/
theorem rehearsal_previews (s : Sweep) (run : Runner) (w : World) :
    ((s.rehearsal.run run w).calls = [] ∧ (s.rehearsal.run run w).world = w ∧
      ∃ report, (s.rehearsal.run run w).result = .ok report ∧
        report.results.map PackageResult.directory = s.config.packages) ∧
      (s.dry = false → s.KeepsManifests run w →
        (∀ report, (s.run run w).result = .ok report →
          (s.rehearsal.run run w).result = .ok report.foreseen) ∧
        ∀ fault, (s.run run w).result = .error fault →
          ∃ before d later reached, s.config.packages = before ++ d :: later ∧
            (s.visit run before w).result = .ok reached ∧
            (s.handle run d (s.visit run before w).world).result = .error fault ∧
            ∃ rest, (s.rehearsal.run run w).result =
              .ok ⟨s.command, reached.map PackageResult.foreseen ++ ⟨d, .planned⟩ :: rest⟩) := by
  have hdry := run_rehearsal s run w
  refine ⟨⟨?_, ?_, ?_⟩, ?_⟩
  · rw [run_calls]
    exact (visit_rehearsal s run s.config.packages w).2.2
  · rw [run_world]
    exact (visit_rehearsal s run s.config.packages w).2.1
  · refine ⟨_, hdry, ?_⟩
    have hdirectory : PackageResult.directory ∘ s.forecast w = id := rfl
    rw [List.map_map, hdirectory, List.map_id]
  · intro _ hkeeps
    have hsame : ∀ before later, (s.visit run s.config.packages w).calls = before ++ later →
        s.SameManifests (run.after w before) w := by
      intro before later hcalls
      exact hkeeps.sameManifests_after (run_calls.trans hcalls)
    constructor
    · intro report h
      obtain ⟨results, hresults, rfl⟩ := run_eq_ok_iff.mp h
      rw [hdry, map_forecast_of_visit_ok (fun d hd => hd) hsame hresults]
      rfl
    · intro fault h
      obtain ⟨before, d, later, reached, hlist, hreached, hfault⟩ :=
        exists_of_visit_error (run_eq_error_iff.mp h)
      refine ⟨before, d, later, reached, hlist, hreached, hfault, later.map (s.forecast w), ?_⟩
      have hcalls : (s.visit run s.config.packages w).calls = (s.visit run before w).calls ++
          (s.visit run (d :: later) (s.visit run before w).world).calls := by
        rw [hlist, visit_append_of_ok hreached]
      -- The visits before the failing one made the first calls of the sweep.
      have hbefore : before.map (s.forecast w) = reached.map PackageResult.foreseen := by
        refine map_forecast_of_visit_ok ?_ ?_ hreached
        · intro e he
          rw [hlist]
          exact List.mem_append_left _ he
        · intro made rest hmade
          exact hsame made _ (by rw [hcalls, hmade, List.append_assoc])
      have hfailing : s.forecast w d = ⟨d, .planned⟩ := by
        have hworld : s.SameManifests (s.visit run before w).world w := by
          rw [visit_world]
          exact hsame _ _ hcalls
        have hd : d ∈ s.config.packages := by simp [hlist]
        exact forecast_eq_of_handle_error (hworld.skip?_eq hd) hfault
      rw [hdry, hlist, List.map_append, List.map_cons, hbefore, hfailing]

/-- Packages of which the second one has no manifest and the third one fails. -/
def marking : Sweep where
  config := { packages := ["a", "./b", "c", "d"] }
  platform := .linux
  root := "."
  command := "cargo test"

def markingWorld : World where
  tree := ⟨[(["a"], .directory), (["a", "Cargo.toml"], .file []), (["b"], .directory),
    (["c"], .directory), (["c", "Cargo.toml"], .file []), (["d"], .directory)]⟩
  here := []
  environment := .empty

/-- Leaves a mark at each call, and is killed in `c`. -/
def markingRunner : Runner where
  reply call w :=
    ⟨.ok (if call.path = "./c" then ⟨false, none⟩ else .ofCode 0),
      { w with tree := w.tree.put ["mark"] (.file (Utf8.ofString call.path)) }, []⟩
  onward := Call.clock_le

theorem marking_previewed :
    marking.dry = false ∧ marking.KeepsManifests markingRunner markingWorld ∧
      (marking.run markingRunner markingWorld).result =
        .error (.commandFailed "c" "cargo test" none) ∧
      ∃ before d later reached rest, ["a", "./b", "c", "d"] = before ++ d :: later ∧
        (marking.visit markingRunner before markingWorld).result = .ok reached ∧
        (marking.rehearsal.run markingRunner markingWorld).result =
          .ok ⟨"cargo test", reached.map PackageResult.foreseen ++ ⟨d, .planned⟩ :: rest⟩ := by
  have hmade : (marking.run markingRunner markingWorld).calls =
      [⟨"cargo test", "./a"⟩, ⟨"cargo test", "./c"⟩] := by
    decide +kernel
  have hkeeps : marking.KeepsManifests markingRunner markingWorld := by
    intro before call later hcalls
    rw [hmade] at hcalls
    rcases before with _ | ⟨first, _ | ⟨second, more⟩⟩
    · obtain ⟨rfl, -⟩ := List.cons.inj hcalls
      unfold SameManifests
      decide +kernel
    · obtain ⟨rfl, hrest⟩ := List.cons.inj hcalls
      obtain ⟨rfl, -⟩ := List.cons.inj hrest
      unfold SameManifests
      decide +kernel
    · simp at hcalls
  have hfault : (marking.run markingRunner markingWorld).result =
      .error (.commandFailed "c" "cargo test" none) := by
    with_unfolding_all rfl
  obtain ⟨-, hpreview⟩ := rehearsal_previews marking markingRunner markingWorld
  obtain ⟨before, d, later, reached, hlist, hreached, -, rest, hdry⟩ :=
    (hpreview rfl hkeeps).2 _ hfault
  exact ⟨rfl, hkeeps, hfault, before, d, later, reached, rest, hlist, hreached, hdry⟩

end Sweep

end PackageSweep
