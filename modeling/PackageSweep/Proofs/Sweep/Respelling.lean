import Mathlib.Data.List.Forall2
import PackageSweep.Proofs.NormalForm
import PackageSweep.Proofs.Sweep.Visits

/-!
# Sweeps of respelled packages

A package without a backslash in its spelling may be replaced by its normal form. Its path below the
root is the normal form as seen from the root, so commands run in the same place, and its normal
form is its own normal form, so the rules judge it alike. What a sweep shows of the package is its
name as written: this alone changes, in the report, in the log and in the fault of a failed command.
-/

namespace PackageSweep

open Directory (normalForm resolve)

/-! ## Respelled output -/

def PackageResult.respelled (r : PackageResult) : PackageResult :=
  ⟨normalForm r.directory, r.outcome⟩

def Report.respelled (r : Report) : Report := ⟨r.command, r.results.map PackageResult.respelled⟩

def Summary.respelled (s : Summary) : Summary where
  command := s.command
  executed := s.executed.map normalForm
  skipped := s.skipped.map normalForm
  planned := s.planned.map normalForm
  millis := s.millis

/-- The event with its packages, if it has any, in normal form. -/
def Event.respelled : Event → Event
  | .executing command directory => .executing command (normalForm directory)
  | .skipped directory reason => .skipped (normalForm directory) reason
  | .planned command directory => .planned command (normalForm directory)
  | .failed command directory code => .failed command (normalForm directory) code
  | .finished directory elapsed => .finished (normalForm directory) elapsed
  | .summary s => .summary s.respelled
  | e => e

/-- Faults that differ at most in the spelling of the package where a command failed. -/
inductive Fault.Respelled : Fault → Fault → Prop where
  | same (fault : Fault) : Respelled fault fault
  | commandFailed (directory command : String) (code : Option Int) :
      Respelled (.commandFailed directory command code)
        (.commandFailed (normalForm directory) command code)

/-- Signals that differ at most in the spelling of packages. -/
inductive Signal.Respelled : Signal → Signal → Prop where
  | same (signal : Signal) : Respelled signal signal
  | event (e : Event) : Respelled (.event e) (.event e.respelled)

/-- Both end well, with respelled values, or both end on faults. -/
inductive Result.Respelled {α : Type} (respell : α → α) :
    Except Fault α → Except Fault α → Prop where
  | ok (a : α) : Respelled respell (.ok a) (.ok (respell a))
  | error {fault fault' : Fault} (h : fault.Respelled fault') :
      Respelled respell (.error fault) (.error fault')

/-- The calls and the world are the same, and all else differs at most in the spelling of packages.
-/
structure Ending.Respelled {α : Type} (respell : α → α) (one other : Ending α) : Prop where
  result : Result.Respelled respell one.result other.result
  world_eq : other.world = one.world
  calls_eq : other.calls = one.calls
  trace : List.Forall₂ Signal.Respelled one.trace other.trace

section

variable {α β : Type} {respell : α → α} {respell' : β → β} {x y : Except Fault α} {f g : α → β}
  {s t s' t' : Trace}

theorem Result.Respelled.ok_inv {a : α} (h : Result.Respelled respell (.ok a) y) :
    y = .ok (respell a) := by
  cases h
  rfl

theorem Result.Respelled.error_inv {fault : Fault}
    (h : Result.Respelled respell (.error fault) y) :
    ∃ fault', y = .error fault' ∧ fault.Respelled fault' := by
  cases h with
  | error hfault => exact ⟨_, rfl, hfault⟩

theorem Result.Respelled.map (h : Result.Respelled respell x y)
    (hrespell : ∀ a, g (respell a) = respell' (f a)) :
    Result.Respelled respell' (x.map f) (y.map g) := by
  cases h with
  | ok a =>
      have hvalue : Result.Respelled respell' (.ok (f a)) (.ok (respell' (f a))) := .ok (f a)
      rw [← hrespell] at hvalue
      exact hvalue
  | error hfault => exact .error hfault

theorem respelled_refl (t : Trace) : List.Forall₂ Signal.Respelled t t :=
  List.forall₂_same.mpr fun signal _ => .same signal

theorem respelled_append (h : List.Forall₂ Signal.Respelled s s')
    (h' : List.Forall₂ Signal.Respelled t t') :
    List.Forall₂ Signal.Respelled (s ++ t) (s' ++ t') :=
  List.rel_append h h'

/-- A view that shows the package with its outcome shows the respelled one in its place. -/
theorem filterMap_respelled {view : PackageResult → Option α}
    (h : ∀ r : PackageResult, view r.respelled = (view r).map respell)
    (results : List PackageResult) :
    (results.map PackageResult.respelled).filterMap view =
      (results.filterMap view).map respell := by
  rw [List.filterMap_map, List.map_filterMap]
  exact List.filterMap_congr fun r _ => h r

theorem summary?_respelled (r : Report) :
    r.respelled.summary? = r.summary?.map Summary.respelled := by
  have hexecuted : r.respelled.executed = r.executed.map normalForm :=
    filterMap_respelled (by rintro ⟨d, _ | _ | _⟩ <;> rfl) r.results
  have hplanned : r.respelled.planned = r.planned.map normalForm :=
    filterMap_respelled (by rintro ⟨d, _ | _ | _⟩ <;> rfl) r.results
  have hskipped : r.respelled.skipped = r.skipped.map fun x => (normalForm x.1, x.2) :=
    filterMap_respelled (by rintro ⟨d, _ | _ | _⟩ <;> rfl) r.results
  have htotal : r.respelled.total? = r.total? := by
    rw [Report.total?, Report.total?, Report.respelled, List.map_map]
    rfl
  rw [Report.summary?, Report.summary?, htotal]
  cases r.total? with
  | none => rfl
  | some total =>
      rw [Option.map_some, Report.inShort, hexecuted, hplanned, hskipped]
      simp [Report.inShort, Summary.respelled, Report.respelled]

end

namespace Sweep

/-- The same sweep of the packages in their normal forms. -/
def inNormalForm (s : Sweep) : Sweep :=
  { s with config := { s.config with packages := s.config.packages.map normalForm } }

variable {s : Sweep} {run : Runner} {d : String} {ds : List String} {w : World}

theorem skip?_inNormalForm (s : Sweep) (hd : Path.isAbsolute d.toList = false)
    (hbackslash : '\\' ∉ d.toList) (w : World) :
    s.inNormalForm.skip? (normalForm d) w = s.skip? d w := by
  have hwindows :
      s.inNormalForm.config.isWindowsOnly (normalForm d) = s.config.isWindowsOnly d := by
    rw [Config.isWindowsOnly, Config.isWindowsOnly, Directory.normalForm_normalForm]
    rfl
  have hmanifest : s.inNormalForm.config.manifestPath s.root (normalForm d) =
      s.config.manifestPath s.root d := by
    rw [Config.manifestPath, Config.manifestPath, Directory.resolve_normalForm s.root hd hbackslash]
    rfl
  have hcommand : s.inNormalForm.config.isManifestCommand s.command =
      s.config.isManifestCommand s.command := rfl
  have hname : s.inNormalForm.config.manifestName = s.config.manifestName := rfl
  change skipReason s.inNormalForm.config s.platform s.root (normalForm d) s.command w = s.skip? d w
  simp only [skip?, skipReason, hwindows, hmanifest, hcommand, hname]

theorem call_inNormalForm (s : Sweep) (hd : Path.isAbsolute d.toList = false)
    (hbackslash : '\\' ∉ d.toList) : s.inNormalForm.call (normalForm d) = s.call d :=
  congrArg (Call.mk s.command) (Directory.resolve_normalForm s.root hd hbackslash)

theorem handle_inNormalForm (s : Sweep) (run : Runner) (hd : Path.isAbsolute d.toList = false)
    (hbackslash : '\\' ∉ d.toList) (w : World) :
    (s.handle run d w).Respelled id (s.inNormalForm.handle run (normalForm d) w) := by
  have hskip := skip?_inNormalForm s hd hbackslash w
  have hcall := call_inNormalForm s hd hbackslash
  -- The rule that applies to the package and the reply to its call are the same for both spellings,
  -- so what is known of the one visit is what the other one goes by.
  generalize hone : s.handle run d w = one
  cases handled_of_eq hone with
  | skipped hreason =>
      rw [handle_of_handled (.skipped (hskip.trans hreason))]
      exact ⟨.ok _, rfl, rfl, .cons (.event (.skipped d _)) .nil⟩
  | planned hnone hdry =>
      rw [handle_of_handled (.planned (hskip.trans hnone) hdry)]
      exact ⟨.ok _, rfl, rfl, .cons (.event (.planned s.command d)) .nil⟩
  | faulted hnone hdry hreply =>
      rw [← hcall] at hreply ⊢
      rw [handle_of_handled (.faulted (hskip.trans hnone) hdry hreply)]
      exact ⟨.error (.same _), rfl, rfl, respelled_refl _⟩
  | @failed status hnone hdry hreply hsuccess =>
      rw [← hcall] at hreply ⊢
      rw [handle_of_handled (.failed (hskip.trans hnone) hdry hreply hsuccess)]
      have hlast := Signal.Respelled.event (.failed s.command d status.code)
      exact ⟨.error (.commandFailed d s.command _), rfl, rfl,
        respelled_append (respelled_refl _) (.cons hlast .nil)⟩
  | executed hnone hdry hreply hsuccess =>
      rw [← hcall] at hreply ⊢
      rw [handle_of_handled (.executed (hskip.trans hnone) hdry hreply hsuccess)]
      have hlast := Signal.Respelled.event
        (.finished d (run.elapsed (s.inNormalForm.call (normalForm d)) w))
      exact ⟨.ok _, rfl, rfl, respelled_append (respelled_refl _) (.cons hlast .nil)⟩

theorem visit_inNormalForm (s : Sweep) (run : Runner)
    (hds : ∀ d ∈ ds, Path.isAbsolute d.toList = false ∧ '\\' ∉ d.toList) (w : World) :
    (s.visit run ds w).Respelled (List.map PackageResult.respelled)
      (s.inNormalForm.visit run (ds.map normalForm) w) := by
  induction ds generalizing w with
  | nil => exact ⟨.ok [], rfl, rfl, .nil⟩
  | cons d ds ih =>
      obtain ⟨⟨hd, hbackslash⟩, hds⟩ := List.forall_mem_cons.mp hds
      obtain ⟨hresult, hworld, hcalls, htrace⟩ := handle_inNormalForm s run hd hbackslash w
      have hopening := Signal.Respelled.event (.executing s.command d)
      rw [List.map_cons]
      cases hone : (s.handle run d w).result with
      | error fault =>
          rw [hone] at hresult
          obtain ⟨fault', hother, hfault⟩ := hresult.error_inv
          rw [visit_cons_of_error hone, visit_cons_of_error hother]
          exact ⟨.error hfault, hworld, hcalls, .cons hopening htrace⟩
      | ok outcome =>
          rw [hone] at hresult
          have hother := hresult.ok_inv
          have hrest := ih hds (s.handle run d w).world
          rw [visit_cons_of_ok hone, visit_cons_of_ok hother, hworld, hcalls]
          refine ⟨hrest.result.map fun _ => rfl, hrest.world_eq, ?_, ?_⟩
          · exact congrArg ((s.handle run d w).calls ++ ·) hrest.calls_eq
          · exact .cons hopening (respelled_append htrace hrest.trace)

theorem opening_inNormalForm (s : Sweep) : s.inNormalForm.opening = s.opening := by
  simp [opening, inNormalForm]

theorem run_inNormalForm (s : Sweep) (run : Runner) (w : World)
    (hpackages : ∀ d ∈ s.config.packages,
      Path.isAbsolute d.toList = false ∧ '\\' ∉ d.toList) :
    (s.run run w).Respelled Report.respelled (s.inNormalForm.run run w) := by
  have hvisit := visit_inNormalForm s run hpackages w
  refine ⟨?_, ?_, ?_, ?_⟩
  · rw [run_result, run_result]
    exact hvisit.result.map fun _ => rfl
  · rw [run_world, run_world]
    exact hvisit.world_eq
  · rw [run_calls, run_calls]
    exact hvisit.calls_eq
  · have hresult := hvisit.result
    cases hone : (s.visit run s.config.packages w).result with
    | error fault =>
        rw [hone] at hresult
        obtain ⟨fault', hother, -⟩ := hresult.error_inv
        rw [run_of_error hone, run_of_error hother, opening_inNormalForm]
        exact .cons (.same _) hvisit.trace
    | ok results =>
        rw [hone] at hresult
        have hother := hresult.ok_inv
        obtain ⟨summary, hsummary, hrun⟩ := exists_run_of_ok hone
        obtain ⟨summary', hsummary', hrun'⟩ := exists_run_of_ok hother
        have hrespelled : summary' = summary.respelled := by
          have h := summary?_respelled ⟨s.command, results⟩
          rw [hsummary] at h
          exact Option.some.inj (hsummary'.symm.trans h)
        rw [hrun, hrun', hrespelled, opening_inNormalForm]
        exact .cons (.same _)
          (respelled_append hvisit.trace (.cons (.event (.summary summary)) .nil))

/-- Below one root, directories with one path have one normal form; without backslashes the path is
the normal form as seen from the root, so directories with one normal form have one path. Hence a
sweep of packages without backslashes goes on as before when they are replaced by their normal
forms: it makes the same calls, judges each package alike, leaves the same world and ends alike, and
what it shows differs in the names of packages alone. -/
theorem normalForms_interchangeable :
    (∀ root a b : String, Path.isAbsolute a.toList = false → Path.isAbsolute b.toList = false →
        (resolve root a = resolve root b → normalForm a = normalForm b) ∧
        ('\\' ∉ a.toList → '\\' ∉ b.toList →
          resolve root a = String.ofList (Path.join root.toList (normalForm a).toList) ∧
          (normalForm a = normalForm b → resolve root a = resolve root b))) ∧
      ∀ (s : Sweep) (run : Runner) (w : World),
        (∀ d ∈ s.config.packages, Path.isAbsolute d.toList = false ∧ '\\' ∉ d.toList) →
        (∀ d ∈ s.config.packages, ∀ v, s.inNormalForm.skip? (normalForm d) v = s.skip? d v) ∧
          (s.run run w).Respelled Report.respelled (s.inNormalForm.run run w) := by
  constructor
  · intro root a b ha hb
    refine ⟨Directory.normalForm_eq_of_resolve_eq ha hb, fun hbackslash hbackslash' => ?_⟩
    have hpath := Directory.resolve_eq_join_normalForm root ha hbackslash
    have hpath' := Directory.resolve_eq_join_normalForm root hb hbackslash'
    refine ⟨hpath, fun hform => ?_⟩
    rw [hpath, hpath', hform]
  · intro s run w hpackages
    refine ⟨fun d hd v => ?_, run_inNormalForm s run w hpackages⟩
    obtain ⟨hrelative, hbackslash⟩ := hpackages d hd
    exact skip?_inNormalForm s hrelative hbackslash v

/-- A sweep of the root itself and of two packages in long spellings, the second of which fails. -/
def wordy : Sweep where
  config := { packages := ["./", "a//./b/", ".//../c", "d"], windowsOnly := some ["./a/b"] }
  platform := .linux
  root := "ws/"
  command := "make"

/-- Fails above the root. -/
def wordyRunner : Runner where
  reply call w := ⟨.ok (if call.path = "ws/../c" then .ofCode 2 else .ofCode 0), w, []⟩
  onward := Call.clock_le

theorem wordy_interchangeable :
    (∀ d ∈ wordy.config.packages, Path.isAbsolute d.toList = false ∧ '\\' ∉ d.toList) ∧
      wordy.inNormalForm.config.packages = ["", "a/b", "../c", "d"] ∧
      (wordy.run wordyRunner .empty).calls = [⟨"make", "ws/"⟩, ⟨"make", "ws/../c"⟩] ∧
      (wordy.inNormalForm.run wordyRunner .empty).calls =
        [⟨"make", "ws/"⟩, ⟨"make", "ws/../c"⟩] ∧
      (wordy.run wordyRunner .empty).Respelled Report.respelled
        (wordy.inNormalForm.run wordyRunner .empty) := by
  have hpackages : ∀ d ∈ wordy.config.packages,
      Path.isAbsolute d.toList = false ∧ '\\' ∉ d.toList := by
    decide
  have hcalls : (wordy.run wordyRunner .empty).calls =
      [⟨"make", "ws/"⟩, ⟨"make", "ws/../c"⟩] := by
    decide +kernel
  obtain ⟨-, hrun⟩ :=
    normalForms_interchangeable.2 wordy wordyRunner .empty hpackages
  exact ⟨hpackages, by decide +kernel, hcalls, hrun.calls_eq.trans hcalls, hrun⟩

end Sweep

end PackageSweep
