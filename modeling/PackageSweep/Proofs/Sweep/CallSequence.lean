import PackageSweep.Proofs.Sweep.Visits

/-!
# The calls of a sweep

Which calls a sweep makes is fixed by its list: judge each package in the world that the calls for
the packages before it leave behind, drop those to be passed over, and cut the row after the first
call that fails. A sweep ends well exactly when none of its calls fails, and its report then repeats
the judgements, with the time that each call took; otherwise it ends on the fault of its last call.
-/

namespace PackageSweep

/-- What the sweep found when it came to the package. -/
def PackageResult.judgement (r : PackageResult) : String × Option SkipReason :=
  (r.directory, r.skipped?.map Prod.snd)

/-- A reply that ends a sweep: a fault, or a status without success, whatever its code. -/
def Reply.failed (r : Reply) : Bool :=
  match r.result with
  | .error _ => true
  | .ok status => !status.success

namespace Runner

/-- No call of a row fails, each in the world that the calls before it leave behind. -/
def Passes (run : Runner) (calls : List Call) (w : World) : Prop :=
  ∀ before call later, calls = before ++ call :: later →
    (run call (run.after w before)).failed = false

variable {run : Runner} {w : World} {call : Call} {calls : List Call}

theorem passes_nil : run.Passes [] w := by
  intro before call later h
  simp at h

theorem passes_cons (hcall : (run call w).failed = false)
    (hcalls : run.Passes calls (run call w).world) : run.Passes (call :: calls) w := by
  intro before next later h
  cases before with
  | nil =>
      obtain ⟨rfl, -⟩ := List.cons.inj h
      exact hcall
  | cons first before =>
      obtain ⟨rfl, hrest⟩ := List.cons.inj h
      exact hcalls before next later hrest

end Runner

namespace Sweep

/-- Each package with the reason to pass it over, if there is one, in the world that the calls for
the packages before it leave behind. -/
def judged (s : Sweep) (run : Runner) : List String → World → List (String × Option SkipReason)
  | [], _ => []
  | d :: ds, w =>
    match s.skip? d w with
    | some reason => (d, some reason) :: s.judged run ds w
    | none => (d, none) :: s.judged run ds (run (s.call d) w).world

/-- The calls for the packages that are not passed over. -/
def dueCalls (s : Sweep) (judgements : List (String × Option SkipReason)) : List Call :=
  (judgements.filter (·.2.isNone)).map fun x => s.call x.1

/-- What a report says of each package when the sweep is done with it: why it was passed over, or
how long its call took. -/
def noted (s : Sweep) (run : Runner) : List String → World → List PackageResult
  | [], _ => []
  | d :: ds, w =>
    match s.skip? d w with
    | some reason => ⟨d, .skipped reason⟩ :: s.noted run ds w
    | none =>
      ⟨d, .executed (run.elapsed (s.call d) w)⟩ :: s.noted run ds (run (s.call d) w).world

/-- The fault on which a sweep ends after a failed reply: the fault of the runner as it is, or the
failed command with its package and its code. -/
def EndsOn (s : Sweep) (d : String) (reply : Reply) (fault : Fault) : Prop :=
  reply.result = .error fault ∨
    ∃ status, reply.result = .ok status ∧ status.success = false ∧
      fault = .commandFailed d s.command status.code

variable {s : Sweep} {run : Runner} {d : String} {ds : List String} {w : World}

theorem judged_cons_of_some {reason : SkipReason} (h : s.skip? d w = some reason) :
    s.judged run (d :: ds) w = (d, some reason) :: s.judged run ds w := by
  simp [judged, h]

theorem judged_cons_of_none (h : s.skip? d w = none) :
    s.judged run (d :: ds) w = (d, none) :: s.judged run ds (run (s.call d) w).world := by
  simp [judged, h]

theorem dueCalls_cons_of_some (reason : SkipReason) (js : List (String × Option SkipReason)) :
    s.dueCalls ((d, some reason) :: js) = s.dueCalls js := rfl

theorem dueCalls_cons_of_none (js : List (String × Option SkipReason)) :
    s.dueCalls ((d, none) :: js) = s.call d :: s.dueCalls js := rfl

theorem map_fst_judged (ds : List String) (w : World) :
    (s.judged run ds w).map Prod.fst = ds := by
  induction ds generalizing w with
  | nil => rfl
  | cons d ds ih =>
      cases h : s.skip? d w with
      | some reason => rw [judged_cons_of_some h, List.map_cons, ih]
      | none => rw [judged_cons_of_none h, List.map_cons, ih]

theorem noted_cons_of_some {reason : SkipReason} (h : s.skip? d w = some reason) :
    s.noted run (d :: ds) w = ⟨d, .skipped reason⟩ :: s.noted run ds w := by
  simp [noted, h]

theorem noted_cons_of_none (h : s.skip? d w = none) :
    s.noted run (d :: ds) w =
      ⟨d, .executed (run.elapsed (s.call d) w)⟩ :: s.noted run ds (run (s.call d) w).world := by
  simp [noted, h]

theorem map_judgement_noted (ds : List String) (w : World) :
    (s.noted run ds w).map PackageResult.judgement = s.judged run ds w := by
  induction ds generalizing w with
  | nil => rfl
  | cons d ds ih =>
      cases h : s.skip? d w with
      | some reason =>
          rw [noted_cons_of_some h, judged_cons_of_some h, List.map_cons, ih]
          rfl
      | none =>
          rw [noted_cons_of_none h, judged_cons_of_none h, List.map_cons, ih]
          rfl

theorem failed_of_endsOn {reply : Reply} {fault : Fault} (h : s.EndsOn d reply fault) :
    reply.failed = true := by
  rcases h with h | ⟨status, h, hsuccess, -⟩
  · simp [Reply.failed, h]
  · simp [Reply.failed, h, hsuccess]

/-- Visits that ended well noted each judgement, made all calls that were due, and saw none fail. -/
theorem visit_of_ok (hdry : s.dry = false) {results : List PackageResult}
    (h : (s.visit run ds w).result = .ok results) :
    results = s.noted run ds w ∧
      (s.visit run ds w).calls = s.dueCalls (s.judged run ds w) ∧
      run.Passes (s.dueCalls (s.judged run ds w)) w := by
  induction ds generalizing w results with
  | nil =>
      obtain rfl : [] = results := Except.ok.inj h
      exact ⟨rfl, rfl, Runner.passes_nil⟩
  | cons d ds ih =>
      obtain ⟨outcome, rest, hok, hrest, rfl⟩ := exists_of_visit_cons_ok h
      rw [visit_cons_of_ok hok]
      generalize hone : s.handle run d w = one at hok hrest
      cases handled_of_eq hone with
      | skipped hskip =>
          obtain rfl := Except.ok.inj hok
          obtain ⟨hresults, hcalls, hpasses⟩ := ih hrest
          rw [noted_cons_of_some hskip, judged_cons_of_some hskip, dueCalls_cons_of_some]
          exact ⟨congrArg _ hresults, hcalls, hpasses⟩
      | planned _ hplanned => simp [hdry] at hplanned
      | faulted => simp at hok
      | failed => simp at hok
      | executed hskip _ hreply hsuccess =>
          obtain rfl := Except.ok.inj hok
          obtain ⟨hresults, hcalls, hpasses⟩ := ih hrest
          rw [noted_cons_of_none hskip, judged_cons_of_none hskip, dueCalls_cons_of_none]
          refine ⟨congrArg _ hresults, congrArg _ hcalls, Runner.passes_cons ?_ hpasses⟩
          simp [Reply.failed, hreply, hsuccess]

theorem visit_world_of_ok (hdry : s.dry = false) {results : List PackageResult}
    (h : (s.visit run ds w).result = .ok results) :
    (s.visit run ds w).world = run.after w (s.dueCalls (s.judged run ds w)) := by
  obtain ⟨-, hcalls, -⟩ := visit_of_ok hdry h
  rw [visit_world, hcalls]

theorem endsOn_of_handle_error {fault : Fault} (h : (s.handle run d w).result = .error fault) :
    (s.handle run d w).calls = [s.call d] ∧ s.EndsOn d (run (s.call d) w) fault := by
  generalize hone : s.handle run d w = one at h ⊢
  cases handled_of_eq hone with
  | skipped => simp at h
  | planned => simp at h
  | faulted _ _ hreply =>
      obtain rfl := Except.error.inj h
      exact ⟨rfl, .inl hreply⟩
  | failed _ _ hreply hsuccess =>
      obtain rfl := Except.error.inj h
      exact ⟨rfl, .inr ⟨_, hreply, hsuccess, rfl⟩⟩
  | executed => simp at h

/-- Visits that ended on a fault made all calls that were due before, of which none failed, and one
more, whose reply was that fault. -/
theorem exists_first_failure (hdry : s.dry = false) {fault : Fault}
    (h : (s.visit run ds w).result = .error fault) :
    ∃ xs d ys, ds = xs ++ d :: ys ∧
      (s.visit run ds w).calls = s.dueCalls (s.judged run xs w) ++ [s.call d] ∧
      run.Passes (s.dueCalls (s.judged run xs w)) w ∧
      s.EndsOn d (run (s.call d) (run.after w (s.dueCalls (s.judged run xs w)))) fault := by
  obtain ⟨xs, d, ys, reached, rfl, hreached, hfault⟩ := exists_of_visit_error h
  obtain ⟨-, hcalls, hpasses⟩ := visit_of_ok hdry hreached
  obtain ⟨hone, hends⟩ := endsOn_of_handle_error hfault
  refine ⟨xs, d, ys, rfl, ?_, hpasses, visit_world_of_ok hdry hreached ▸ hends⟩
  rw [visit_append_of_ok hreached, visit_cons_of_error hfault]
  dsimp only
  rw [hcalls, hone]

/-- Visits that ended on a fault ended with the call for one package, whose reply was that fault. -/
theorem visit_of_error (hdry : s.dry = false) {fault : Fault}
    (h : (s.visit run ds w).result = .error fault) :
    ∃ xs d ys, ds = xs ++ d :: ys ∧
      (s.visit run ds w).calls = s.dueCalls (s.judged run xs w) ++ [s.call d] ∧
      s.EndsOn d (run (s.call d) (run.after w (s.dueCalls (s.judged run xs w)))) fault := by
  obtain ⟨xs, d, ys, hlist, hcalls, -, hends⟩ := exists_first_failure hdry h
  exact ⟨xs, d, ys, hlist, hcalls, hends⟩

theorem exists_run_ok_iff (hdry : s.dry = false) :
    (∃ report, (s.run run w).result = .ok report) ↔ run.Passes (s.run run w).calls w := by
  rw [run_calls]
  constructor
  · rintro ⟨report, h⟩
    obtain ⟨results, hresults, -⟩ := run_eq_ok_iff.mp h
    obtain ⟨-, hcalls, hpasses⟩ := visit_of_ok hdry hresults
    rwa [hcalls]
  · intro hpasses
    cases h : (s.visit run s.config.packages w).result with
    | ok results => exact ⟨_, run_eq_ok_iff.mpr ⟨results, h, rfl⟩⟩
    | error fault =>
        obtain ⟨xs, d, ys, -, hcalls, hends⟩ := visit_of_error hdry h
        have hlast := hpasses _ _ _ hcalls
        rw [failed_of_endsOn hends] at hlast
        exact absurd hlast (by decide)

end Sweep

end PackageSweep
