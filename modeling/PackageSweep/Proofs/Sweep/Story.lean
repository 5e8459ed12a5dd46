import PackageSweep.Proofs.Sweep.CallSequence

/-!
# The log of a sweep

The log of a sweep is told by its result. With a runner that logs nothing of its own it opens, then
has two events for each package that the sweep is done with, one when it comes to the package and
one for what became of it, and closes with the summary of the report. A sweep that fails stops in
the middle: there is an event for the failed command, but none for a runner that gave no status.
-/

namespace PackageSweep

/-- The runner has nothing to say in the log. It may write on the output streams. -/
def Runner.Silent (run : Runner) : Prop := ∀ call w, (run call w).trace.events = []

/-- What the log says of what became of a package. -/
def PackageResult.event (command : String) (r : PackageResult) : Event :=
  match r.outcome with
  | .executed elapsed => .finished r.directory elapsed
  | .skipped reason => .skipped r.directory reason
  | .planned => .planned command r.directory

def Event.isExecuting : Event → Bool
  | .executing _ _ => true
  | _ => false

namespace Sweep

/-- What the log says of a package that the sweep is done with. -/
def told (s : Sweep) (r : PackageResult) : List Event :=
  [.executing s.command r.directory, r.event s.command]

/-- What the log says of a reply that ends the sweep. -/
def lastWords (s : Sweep) (d : String) : Except Fault Status → List Event
  | .error _ => []
  | .ok status => [.failed s.command d status.code]

/-- The reply to the call for a package, in the world that the calls for the packages before it
leave behind. -/
def replyAfter (s : Sweep) (run : Runner) (before : List String) (d : String) (w : World) : Reply :=
  run (s.call d) (run.after w (s.dueCalls (s.judged run before w)))

variable {s : Sweep} {run : Runner} {d : String} {ds : List String} {w : World}
  {results : List PackageResult} {outcome : Outcome} {fault : Fault} {summary : Summary}

/-! ## One package -/

theorem events_handle_of_ok (hsilent : run.Silent) (h : (s.handle run d w).result = .ok outcome) :
    (s.handle run d w).trace.events = [PackageResult.event s.command ⟨d, outcome⟩] := by
  generalize hone : s.handle run d w = one at h ⊢
  cases handled_of_eq hone with
  | skipped =>
      obtain rfl := Except.ok.inj h
      rfl
  | planned =>
      obtain rfl := Except.ok.inj h
      rfl
  | faulted => simp at h
  | failed => simp at h
  | executed =>
      obtain rfl := Except.ok.inj h
      rw [Trace.events_append, hsilent]
      rfl

theorem events_handle_of_error (hsilent : run.Silent)
    (h : (s.handle run d w).result = .error fault) :
    s.dry = false ∧
      (s.handle run d w).trace.events = s.lastWords d (run (s.call d) w).result := by
  generalize hone : s.handle run d w = one at h ⊢
  cases handled_of_eq hone with
  | skipped => simp at h
  | planned => simp at h
  | faulted _ hdry hreply =>
      rw [hreply]
      exact ⟨hdry, hsilent _ _⟩
  | failed _ hdry hreply =>
      rw [hreply, Trace.events_append, hsilent]
      exact ⟨hdry, rfl⟩
  | executed => simp at h

/-! ## A row of packages -/

theorem events_visit_of_ok (hsilent : run.Silent) (h : (s.visit run ds w).result = .ok results) :
    (s.visit run ds w).trace.events = results.flatMap s.told := by
  induction ds generalizing w results with
  | nil =>
      obtain rfl : [] = results := Except.ok.inj h
      rfl
  | cons d ds ih =>
      obtain ⟨outcome, rest, hone, hrest, rfl⟩ := exists_of_visit_cons_ok h
      have hfirst := events_handle_of_ok hsilent hone
      rw [visit_cons_of_ok hone, List.flatMap_cons, Trace.events_event_cons, Trace.events_append,
        hfirst, ih hrest]
      rfl

/-- Visits that ended on a fault told of each package before it, and of the call that failed. -/
theorem exists_events_of_visit_error (hsilent : run.Silent)
    (h : (s.visit run ds w).result = .error fault) :
    ∃ before d later, ds = before ++ d :: later ∧
      s.EndsOn d (s.replyAfter run before d w) fault ∧
      (s.visit run ds w).trace.events = (s.noted run before w).flatMap s.told ++
        .executing s.command d :: s.lastWords d (s.replyAfter run before d w).result := by
  obtain ⟨before, d, later, reached, rfl, hreached, hfault⟩ := exists_of_visit_error h
  obtain ⟨-, hends⟩ := endsOn_of_handle_error hfault
  obtain ⟨hdry, hlast⟩ := events_handle_of_error hsilent hfault
  have hworld : (s.visit run before w).world = run.after w (s.dueCalls (s.judged run before w)) :=
    visit_world_of_ok hdry hreached
  have hbefore := events_visit_of_ok hsilent hreached
  obtain ⟨rfl, -⟩ := visit_of_ok hdry hreached
  rw [hworld] at hends hlast
  refine ⟨before, d, later, rfl, hends, ?_⟩
  rw [visit_append_of_ok hreached, visit_cons_of_error hfault, Trace.events_append, hbefore,
    Trace.events_event_cons, hworld, hlast]
  rfl

theorem countP_flatMap_told (results : List PackageResult) :
    (results.flatMap s.told).countP Event.isExecuting = results.length := by
  induction results with
  | nil => rfl
  | cons r results ih =>
      have hone : (s.told r).countP Event.isExecuting = 1 := by
        obtain ⟨d, outcome⟩ := r
        cases outcome <;> rfl
      rw [List.flatMap_cons, List.countP_append, hone, ih, List.length_cons, Nat.add_comm]

theorem countP_story (s : Sweep) (results : List PackageResult) (rest : List Event) :
    (s.opening :: (results.flatMap s.told ++ rest)).countP Event.isExecuting =
      results.length + rest.countP Event.isExecuting := by
  have hopening : s.opening.isExecuting = false := rfl
  rw [List.countP_cons_of_neg (by simp [hopening]), List.countP_append, countP_flatMap_told]

theorem countP_lastWords (result : Except Fault Status) :
    (.executing s.command d :: s.lastWords d result).countP Event.isExecuting = 1 := by
  cases result <;> rfl

theorem summary_notMem_lastWords (result : Except Fault Status) :
    .summary summary ∉ s.lastWords d result := by
  cases result <;> simp [lastWords]

theorem summary_mem_of_mem_told {rest : List Event}
    (h : .summary summary ∈ s.opening :: (results.flatMap s.told ++ rest)) :
    .summary summary ∈ rest := by
  rcases List.mem_cons.mp h with hopening | h
  · simp [opening] at hopening
  · rcases List.mem_append.mp h with htold | hrest
    · obtain ⟨⟨d, outcome⟩, -, hmem⟩ := List.mem_flatMap.mp htold
      cases outcome <;> simp [told, PackageResult.event] at hmem
    · exact hrest

/-! ## A whole sweep -/

theorem exists_events_of_run_ok (hsilent : run.Silent) {report : Report}
    (h : (s.run run w).result = .ok report) :
    ∃ summary, report.summary? = some summary ∧
      (s.run run w).trace.events =
        s.opening :: (report.results.flatMap s.told ++ [.summary summary]) := by
  obtain ⟨results, hresults, rfl⟩ := run_eq_ok_iff.mp h
  obtain ⟨summary, hsummary, hrun⟩ := exists_run_of_ok hresults
  refine ⟨summary, hsummary, ?_⟩
  rw [hrun, Trace.events_event_cons, Trace.events_append, events_visit_of_ok hsilent hresults]
  rfl

theorem exists_events_of_run_error (hsilent : run.Silent)
    (h : (s.run run w).result = .error fault) :
    ∃ before d later, s.config.packages = before ++ d :: later ∧
      s.EndsOn d (s.replyAfter run before d w) fault ∧
      (s.run run w).trace.events =
        s.opening :: ((s.noted run before w).flatMap s.told ++
          .executing s.command d :: s.lastWords d (s.replyAfter run before d w).result) := by
  have hvisit := run_eq_error_iff.mp h
  obtain ⟨before, d, later, hlist, hends, hevents⟩ := exists_events_of_visit_error hsilent hvisit
  refine ⟨before, d, later, hlist, hends, ?_⟩
  rw [run_of_error hvisit, Trace.events_event_cons, hevents]

theorem summary_mem_events_iff (hsilent : run.Silent) :
    .summary summary ∈ (s.run run w).trace.events ↔
      ∃ report, (s.run run w).result = .ok report ∧ report.summary? = some summary := by
  constructor
  · intro hmem
    cases hresult : (s.run run w).result with
    | ok report =>
        obtain ⟨last, hlast, hevents⟩ := exists_events_of_run_ok hsilent hresult
        rw [hevents] at hmem
        obtain rfl : summary = last := by simpa using summary_mem_of_mem_told hmem
        exact ⟨report, rfl, hlast⟩
    | error fault =>
        obtain ⟨before, d, later, -, -, hevents⟩ := exists_events_of_run_error hsilent hresult
        rw [hevents] at hmem
        rcases List.mem_cons.mp (summary_mem_of_mem_told hmem) with hmem | hmem
        · simp at hmem
        · exact absurd hmem (summary_notMem_lastWords _)
  · rintro ⟨report, hresult, hsummary⟩
    obtain ⟨last, hlast, hevents⟩ := exists_events_of_run_ok hsilent hresult
    obtain rfl : summary = last := Option.some.inj (hsummary.symm.trans hlast)
    rw [hevents]
    simp

/-- The log of a sweep opens, tells of each package in list order that the sweep came to it and then
what became of it, and closes with the summary of the report. If the sweep fails, the log ends with
the package where it failed, and there is no summary. -/
theorem run_tells_result (s : Sweep) (run : Runner) (w : World) (hsilent : run.Silent) :
    (∀ report, (s.run run w).result = .ok report →
      report.results.map PackageResult.directory = s.config.packages ∧
      (s.run run w).trace.events.countP Event.isExecuting = s.config.packages.length ∧
      ∃ summary, report.summary? = some summary ∧
        (s.run run w).trace.events =
          s.opening :: (report.results.flatMap s.told ++ [.summary summary])) ∧
    (∀ fault, (s.run run w).result = .error fault →
      ∃ before d later, s.config.packages = before ++ d :: later ∧
        (s.noted run before w).map PackageResult.judgement = s.judged run before w ∧
        (s.judged run before w).map Prod.fst = before ∧
        s.EndsOn d (s.replyAfter run before d w) fault ∧
        (s.run run w).trace.events.countP Event.isExecuting = before.length + 1 ∧
        (s.run run w).trace.events =
          s.opening :: ((s.noted run before w).flatMap s.told ++
            .executing s.command d :: s.lastWords d (s.replyAfter run before d w).result)) ∧
    ∀ summary, .summary summary ∈ (s.run run w).trace.events ↔
      ∃ report, (s.run run w).result = .ok report ∧ report.summary? = some summary := by
  refine ⟨fun report h => ?_, fun fault h => ?_, fun summary => summary_mem_events_iff hsilent⟩
  · obtain ⟨summary, hsummary, hevents⟩ := exists_events_of_run_ok hsilent h
    obtain ⟨results, hresults, rfl⟩ := run_eq_ok_iff.mp h
    have hdirectories := map_directory_of_visit_ok hresults
    refine ⟨hdirectories, ?_, summary, hsummary, hevents⟩
    rw [hevents, countP_story, ← hdirectories, List.length_map]
    rfl
  · obtain ⟨before, d, later, hlist, hends, hevents⟩ := exists_events_of_run_error hsilent h
    have hjudged : (s.judged run before w).map Prod.fst = before := map_fst_judged before w
    have hnoted : (s.noted run before w).map PackageResult.judgement = s.judged run before w :=
      map_judgement_noted before w
    have hlength : (s.noted run before w).length = before.length := by
      rw [← List.length_map PackageResult.judgement, hnoted, ← List.length_map Prod.fst, hjudged]
    refine ⟨before, d, later, hlist, hnoted, hjudged, hends, ?_, hevents⟩
    rw [hevents, countP_story, countP_lastWords, hlength]

/-- Packages of which the second one is passed over and the third one fails. -/
def tripping : Sweep where
  config := { packages := ["a", "./w/", "b", "a"], windowsOnly := some ["w"] }
  platform := .linux
  root := "."
  command := "make"

/-- Writes a line at each call, takes a second and a half for it, and is killed in `b`. -/
def trippingRunner : Runner where
  reply call w :=
    ⟨.ok (if call.path = "./b" then ⟨false, none⟩ else .ofCode 0),
      { w with clock := w.clock.after ⟨1, 500000000, by decide⟩ },
      [.out (Utf8.ofString "making\n")]⟩
  onward _ w := Instant.le_after w.clock _

theorem tripping_tells_result :
    trippingRunner.Silent ∧
      (tripping.run trippingRunner .empty).result =
        .error (.commandFailed "b" "make" none) ∧
      (tripping.run trippingRunner .empty).trace.events =
        [.opening "make" 4 "." "linux", .executing "make" "a",
          .finished "a" ⟨1, 500000000, by decide⟩, .executing "make" "./w/",
          .skipped "./w/" .windowsOnly, .executing "make" "b", .failed "make" "b" none] := by
  have hsilent : trippingRunner.Silent := fun _ _ => rfl
  have hfault : (tripping.run trippingRunner .empty).result =
      .error (.commandFailed "b" "make" none) := by
    with_unfolding_all rfl
  obtain ⟨-, hfailed, -⟩ := run_tells_result tripping trippingRunner .empty hsilent
  obtain ⟨before, d, later, hlist, -, -, hends, -, hevents⟩ := hfailed _ hfault
  have hd : "b" = d := by
    rcases hends with hreply | ⟨status, -, -, hnamed⟩
    · simp [replyAfter, trippingRunner] at hreply
    · exact (Fault.commandFailed.inj hnamed).1
  have hbefore : before = ["a", "./w/"] := by
    subst hd
    rcases before with _ | ⟨x, _ | ⟨y, _ | ⟨z, _ | ⟨u, more⟩⟩⟩⟩ <;> simp [tripping] at hlist
    obtain ⟨rfl, rfl, -⟩ := hlist
    rfl
  subst hd hbefore
  refine ⟨hsilent, hfault, hevents.trans ?_⟩
  with_unfolding_all rfl

end Sweep

end PackageSweep
