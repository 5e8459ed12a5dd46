import PackageSweep.Proofs.Result
import PackageSweep.Sweep.Run

/-!
# Visiting one package after the other

There are five ways to be done with a package, and `Handled` lists them with all that each of them
leaves behind. Everything about a row of visits comes from that list by induction on the row: the
world changes through the calls alone, a row goes on where the first part of it ended well, and a
call is made for a package that was not passed over in the world of that moment.
-/

namespace PackageSweep

namespace Runner

/-- The world that a row of calls leaves behind, made one after the other. -/
def after (run : Runner) (w : World) (calls : List Call) : World :=
  calls.foldl (fun v call => (run call v).world) w

/-- The runner whose commands all end well and change nothing. -/
def idle : Runner where
  reply _ w := ⟨.ok (.ofCode 0), w, []⟩
  onward := Call.clock_le

variable {run : Runner} {w : World}

@[simp] theorem after_nil : run.after w [] = w := rfl

@[simp] theorem after_cons (call : Call) (calls : List Call) :
    run.after w (call :: calls) = run.after (run call w).world calls := rfl

theorem after_append (xs ys : List Call) :
    run.after w (xs ++ ys) = run.after (run.after w xs) ys := List.foldl_append

end Runner

namespace Sweep

/-- The ways to be done with a package in a world, each with what it leaves behind. -/
inductive Handled (s : Sweep) (run : Runner) (d : String) (w : World) : Ending Outcome → Prop where
  | skipped {reason : SkipReason} (hskip : s.skip? d w = some reason) :
      Handled s run d w ⟨.ok (.skipped reason), w, [], [.event (.skipped d reason)]⟩
  | planned (hskip : s.skip? d w = none) (hdry : s.dry = true) :
      Handled s run d w ⟨.ok .planned, w, [], [.event (.planned s.command d)]⟩
  | faulted {fault : Fault} (hskip : s.skip? d w = none) (hdry : s.dry = false)
      (hreply : (run (s.call d) w).result = .error fault) :
      Handled s run d w
        ⟨.error fault, (run (s.call d) w).world, [s.call d], (run (s.call d) w).trace⟩
  | failed {status : Status} (hskip : s.skip? d w = none) (hdry : s.dry = false)
      (hreply : (run (s.call d) w).result = .ok status) (hsuccess : status.success = false) :
      Handled s run d w
        ⟨.error (.commandFailed d s.command status.code), (run (s.call d) w).world, [s.call d],
          (run (s.call d) w).trace ++ [.event (.failed s.command d status.code)]⟩
  | executed {status : Status} (hskip : s.skip? d w = none) (hdry : s.dry = false)
      (hreply : (run (s.call d) w).result = .ok status) (hsuccess : status.success = true) :
      Handled s run d w
        ⟨.ok (.executed (run.elapsed (s.call d) w)), (run (s.call d) w).world, [s.call d],
          (run (s.call d) w).trace ++ [.event (.finished d (run.elapsed (s.call d) w))]⟩

variable {s : Sweep} {run : Runner} {d : String} {ds xs : List String} {w : World}

theorem handled_handle (s : Sweep) (run : Runner) (d : String) (w : World) :
    s.Handled run d w (s.handle run d w) := by
  rw [handle]
  cases hskip : s.skip? d w with
  | some reason => exact .skipped hskip
  | none =>
      cases hdry : s.dry with
      | true => exact .planned hskip hdry
      | false =>
          simp only [execute, Bool.false_eq_true, if_false]
          cases hreply : (run (s.call d) w).result with
          | error fault => exact .faulted hskip hdry hreply
          | ok status =>
              dsimp only
              split
              · rename_i hsuccess
                exact .executed hskip hdry hreply hsuccess
              · rename_i hsuccess
                exact .failed hskip hdry hreply (by simpa using hsuccess)

theorem handled_of_eq {one : Ending Outcome} (h : s.handle run d w = one) :
    s.Handled run d w one := h ▸ handled_handle s run d w

/-- The ways exclude each other: each of them is what handling the package does. -/
theorem handle_of_handled {one : Ending Outcome} (h : s.Handled run d w one) :
    s.handle run d w = one := by
  cases h with
  | skipped hskip => simp [handle, hskip]
  | planned hskip hdry => simp [handle, hskip, hdry]
  | faulted hskip hdry hreply => simp [handle, hskip, hdry, execute, hreply]
  | failed hskip hdry hreply hsuccess => simp [handle, hskip, hdry, execute, hreply, hsuccess]
  | executed hskip hdry hreply hsuccess => simp [handle, hskip, hdry, execute, hreply, hsuccess]

theorem visit_cons_of_error {fault : Fault} (h : (s.handle run d w).result = .error fault) :
    s.visit run (d :: ds) w =
      ⟨.error fault, (s.handle run d w).world, (s.handle run d w).calls,
        .event (.executing s.command d) :: (s.handle run d w).trace⟩ := by
  simp [visit, h]

theorem visit_cons_of_ok {outcome : Outcome} (h : (s.handle run d w).result = .ok outcome) :
    s.visit run (d :: ds) w =
      ⟨(s.visit run ds (s.handle run d w).world).result.map (⟨d, outcome⟩ :: ·),
        (s.visit run ds (s.handle run d w).world).world,
        (s.handle run d w).calls ++ (s.visit run ds (s.handle run d w).world).calls,
        .event (.executing s.command d) ::
          ((s.handle run d w).trace ++ (s.visit run ds (s.handle run d w).world).trace)⟩ := by
  simp [visit, h]

theorem handle_world : (s.handle run d w).world = run.after w (s.handle run d w).calls := by
  generalize hone : s.handle run d w = one
  cases handled_of_eq hone <;> rfl

/-- A package costs at most one call, and none only when the sweep goes on. -/
theorem handle_calls (s : Sweep) (run : Runner) (d : String) (w : World) :
    ((s.handle run d w).calls = [] ∧ ∃ outcome, (s.handle run d w).result = .ok outcome) ∨
      ((s.handle run d w).calls = [s.call d] ∧ s.dry = false ∧ s.skip? d w = none) := by
  generalize hone : s.handle run d w = one
  cases handled_of_eq hone with
  | skipped _ => exact .inl ⟨rfl, _, rfl⟩
  | planned _ _ => exact .inl ⟨rfl, _, rfl⟩
  | faulted hskip hdry _ => exact .inr ⟨rfl, hdry, hskip⟩
  | failed hskip hdry _ _ => exact .inr ⟨rfl, hdry, hskip⟩
  | executed hskip hdry _ _ => exact .inr ⟨rfl, hdry, hskip⟩

theorem handle_calls_of_not_skipped (hdry : s.dry = false) (hskip : s.skip? d w = none) :
    (s.handle run d w).calls = [s.call d] := by
  generalize hone : s.handle run d w = one
  cases handled_of_eq hone with
  | skipped hskip' => simp [hskip] at hskip'
  | planned _ hdry' => simp [hdry] at hdry'
  | faulted _ _ _ => rfl
  | failed _ _ _ _ => rfl
  | executed _ _ _ _ => rfl

/-- Nothing but the calls of a sweep changes the world. -/
theorem visit_world (ds : List String) (w : World) :
    (s.visit run ds w).world = run.after w (s.visit run ds w).calls := by
  induction ds generalizing w with
  | nil => rfl
  | cons d ds ih =>
      cases h : (s.handle run d w).result with
      | error fault =>
          rw [visit_cons_of_error h]
          exact handle_world
      | ok outcome =>
          rw [visit_cons_of_ok h]
          dsimp only
          rw [ih, Runner.after_append, ← handle_world]

theorem exists_of_visit_cons_ok {results : List PackageResult}
    (h : (s.visit run (d :: ds) w).result = .ok results) :
    ∃ outcome rest, (s.handle run d w).result = .ok outcome ∧
      (s.visit run ds (s.handle run d w).world).result = .ok rest ∧
      results = ⟨d, outcome⟩ :: rest := by
  cases hone : (s.handle run d w).result with
  | error fault => simp [visit_cons_of_error hone] at h
  | ok outcome =>
      rw [visit_cons_of_ok hone] at h
      obtain ⟨rest, hrest, rfl⟩ := Result.map_eq_ok_iff.mp h
      exact ⟨outcome, rest, rfl, hrest, rfl⟩

/-- A row of visits that ended well goes on with the next ones, from the world that it left. -/
theorem visit_append_of_ok {results : List PackageResult}
    (h : (s.visit run xs w).result = .ok results) (ds : List String) :
    s.visit run (xs ++ ds) w =
      ⟨(s.visit run ds (s.visit run xs w).world).result.map (results ++ ·),
        (s.visit run ds (s.visit run xs w).world).world,
        (s.visit run xs w).calls ++ (s.visit run ds (s.visit run xs w).world).calls,
        (s.visit run xs w).trace ++ (s.visit run ds (s.visit run xs w).world).trace⟩ := by
  induction xs generalizing w results with
  | nil =>
      obtain rfl : [] = results := Except.ok.inj h
      rw [List.nil_append, show s.visit run [] w = ⟨.ok [], w, [], []⟩ from rfl]
      dsimp only
      obtain ⟨result, v, calls, trace⟩ := s.visit run ds w
      cases result <;> rfl
  | cons d xs ih =>
      obtain ⟨outcome, rest, hone, hrest, rfl⟩ := exists_of_visit_cons_ok h
      rw [List.cons_append, visit_cons_of_ok hone, visit_cons_of_ok hone, ih hrest]
      cases (s.visit run ds (s.visit run xs (s.handle run d w).world).world).result <;>
        simp [Except.map]

/-- A row of visits that ended on a fault came to a package where handling it ended on that fault,
with all visits before it ended well. -/
theorem exists_of_visit_error {fault : Fault} (h : (s.visit run ds w).result = .error fault) :
    ∃ before d later reached, ds = before ++ d :: later ∧
      (s.visit run before w).result = .ok reached ∧
      (s.handle run d (s.visit run before w).world).result = .error fault := by
  induction ds generalizing w with
  | nil => simp [visit] at h
  | cons d ds ih =>
      cases hone : (s.handle run d w).result with
      | error first =>
          rw [visit_cons_of_error hone] at h
          obtain rfl : first = fault := Except.error.inj h
          exact ⟨[], d, ds, [], rfl, rfl, hone⟩
      | ok outcome =>
          rw [visit_cons_of_ok hone] at h
          obtain ⟨before, e, later, reached, rfl, hreached, hfault⟩ :=
            ih (Result.map_eq_error_iff.mp h)
          refine ⟨d :: before, e, later, ⟨d, outcome⟩ :: reached, rfl, ?_, ?_⟩
          · rw [visit_cons_of_ok hone, hreached]
            rfl
          · rw [visit_cons_of_ok hone]
            exact hfault

theorem map_directory_of_visit_ok {results : List PackageResult}
    (h : (s.visit run ds w).result = .ok results) : results.map PackageResult.directory = ds := by
  induction ds generalizing w results with
  | nil =>
      obtain rfl : [] = results := Except.ok.inj h
      rfl
  | cons d ds ih =>
      obtain ⟨outcome, rest, -, hrest, rfl⟩ := exists_of_visit_cons_ok h
      rw [List.map_cons, ih hrest]

/-- Each result is the outcome for its package in the world in which the sweep came to it. -/
theorem exists_of_mem_visit_results {results : List PackageResult} {r : PackageResult}
    (h : (s.visit run ds w).result = .ok results) (hr : r ∈ results) :
    r.directory ∈ ds ∧ ∃ v, (s.handle run r.directory v).result = .ok r.outcome := by
  induction ds generalizing w results with
  | nil =>
      obtain rfl : [] = results := Except.ok.inj h
      simp at hr
  | cons d ds ih =>
      obtain ⟨outcome, rest, hone, hrest, rfl⟩ := exists_of_visit_cons_ok h
      rcases List.mem_cons.mp hr with rfl | hr
      · exact ⟨List.mem_cons_self, w, hone⟩
      · obtain ⟨hmem, hv⟩ := ih hrest hr
        exact ⟨List.mem_cons_of_mem d hmem, hv⟩

/-- Where a call is made, the sweep has come to its package with all visits before it ended well,
and does not pass it over in the world that the calls so far have left. -/
theorem exists_of_visit_calls {before later : List Call} {call : Call}
    (h : (s.visit run ds w).calls = before ++ call :: later) :
    ∃ xs d ys results, ds = xs ++ d :: ys ∧ (s.visit run xs w).result = .ok results ∧
      (s.visit run xs w).calls = before ∧ s.dry = false ∧
      s.skip? d (run.after w before) = none ∧ call = s.call d := by
  induction ds generalizing w before with
  | nil => simp [visit] at h
  | cons d ds ih =>
      -- A call of the visits after this one keeps its place behind the calls of this one.
      have hlater : ∀ {outcome made}, (s.handle run d w).result = .ok outcome →
          (s.visit run ds (s.handle run d w).world).calls = made ++ call :: later →
          before = (s.handle run d w).calls ++ made →
          ∃ xs e ys results, d :: ds = xs ++ e :: ys ∧ (s.visit run xs w).result = .ok results ∧
            (s.visit run xs w).calls = before ∧ s.dry = false ∧
            s.skip? e (run.after w before) = none ∧ call = s.call e := by
        rintro outcome made hone hrest rfl
        obtain ⟨xs, e, ys, results, rfl, hxs, hcalls, hdry, hskip, rfl⟩ := ih hrest
        refine ⟨d :: xs, e, ys, ⟨d, outcome⟩ :: results, rfl, ?_, ?_, hdry, ?_, rfl⟩
        · rw [visit_cons_of_ok hone, hxs]
          rfl
        · rw [visit_cons_of_ok hone, hcalls]
        · rwa [Runner.after_append, ← handle_world]
      rcases handle_calls s run d w with ⟨hnone, outcome, hone⟩ | ⟨hcall, hdry, hskip⟩
      · rw [visit_cons_of_ok hone, hnone, List.nil_append] at h
        exact hlater hone h (by rw [hnone, List.nil_append])
      · cases hone : (s.handle run d w).result with
        | error fault =>
            rw [visit_cons_of_error hone, hcall] at h
            rcases List.append_eq_singleton_iff.mp h.symm with ⟨rfl, hcalls⟩ | ⟨-, hcalls⟩
            · obtain ⟨rfl, -⟩ := List.cons.inj hcalls
              exact ⟨[], d, ds, [], rfl, rfl, rfl, hdry, hskip, rfl⟩
            · simp at hcalls
        | ok outcome =>
            rw [visit_cons_of_ok hone, hcall, List.singleton_append] at h
            cases before with
            | nil =>
                obtain ⟨rfl, -⟩ := List.cons.inj h
                exact ⟨[], d, ds, [], rfl, rfl, rfl, hdry, hskip, rfl⟩
            | cons first made =>
                obtain ⟨rfl, hrest⟩ := List.cons.inj h
                exact hlater hone hrest (by rw [hcall, List.singleton_append])

/-- At most one call for each entry of the list, in its order. -/
theorem visit_calls_sublist (ds : List String) (w : World) :
    (s.visit run ds w).calls.Sublist (ds.map s.call) := by
  induction ds generalizing w with
  | nil => exact List.Sublist.refl []
  | cons d ds ih =>
      have hone : (s.handle run d w).calls.Sublist [s.call d] := by
        rcases handle_calls s run d w with ⟨h, -⟩ | ⟨h, -⟩ <;> simp [h]
      cases h : (s.handle run d w).result with
      | error fault =>
          rw [visit_cons_of_error h]
          exact hone.trans (List.singleton_sublist.mpr List.mem_cons_self)
      | ok outcome =>
          rw [visit_cons_of_ok h]
          exact hone.append (ih (s.handle run d w).world)

/-- A package that is not to be passed over brings a call about, its own or an earlier one. -/
theorem visit_calls_ne_nil (hd : d ∈ ds) (hdry : s.dry = false) (hskip : s.skip? d w = none) :
    (s.visit run ds w).calls ≠ [] := by
  induction ds with
  | nil => simp at hd
  | cons e es ih =>
      rcases handle_calls s run e w with ⟨hnone, outcome, hone⟩ | ⟨hcall, -⟩
      · -- Without a call the world is as it was.
        have hworld : (s.handle run e w).world = w := by
          rw [handle_world, hnone, Runner.after_nil]
        rw [visit_cons_of_ok hone, hnone, hworld]
        rcases List.mem_cons.mp hd with rfl | hd
        · simp [handle_calls_of_not_skipped hdry hskip] at hnone
        · exact ih hd
      · cases hone : (s.handle run e w).result with
        | error fault => simp [visit_cons_of_error hone, hcall]
        | ok outcome => simp [visit_cons_of_ok hone, hcall]

/-! ## Whole sweeps -/

theorem run_of_error {fault : Fault} (h : (s.visit run s.config.packages w).result = .error fault) :
    s.run run w = ⟨.error fault, (s.visit run s.config.packages w).world,
      (s.visit run s.config.packages w).calls,
      .event s.opening :: (s.visit run s.config.packages w).trace⟩ := by
  rw [Sweep.run]
  split
  · rename_i fault' hfault
    obtain rfl := Except.error.inj (hfault.symm.trans h)
    rfl
  · rename_i results hresults
    simp [hresults] at h

/-- After visits that ended well there is a report, and a summary of it to close with. -/
theorem exists_run_of_ok {results : List PackageResult}
    (h : (s.visit run s.config.packages w).result = .ok results) :
    ∃ summary, (Report.mk s.command results).summary? = some summary ∧
      s.run run w = ⟨.ok ⟨s.command, results⟩, (s.visit run s.config.packages w).world,
        (s.visit run s.config.packages w).calls,
        .event s.opening ::
          ((s.visit run s.config.packages w).trace ++ [.event (.summary summary)])⟩ := by
  rw [Sweep.run]
  split
  · rename_i fault hfault
    simp [hfault] at h
  · rename_i results' hresults
    obtain rfl := Except.ok.inj (hresults.symm.trans h)
    exact ⟨_, Report.summary?_of_isSome (isSome_total?_of_visit_ok h s.command), rfl⟩

theorem run_calls : (s.run run w).calls = (s.visit run s.config.packages w).calls := by
  cases h : (s.visit run s.config.packages w).result with
  | error fault => rw [run_of_error h]
  | ok results =>
      obtain ⟨summary, -, hrun⟩ := exists_run_of_ok h
      rw [hrun]

theorem run_world : (s.run run w).world = (s.visit run s.config.packages w).world := by
  cases h : (s.visit run s.config.packages w).result with
  | error fault => rw [run_of_error h]
  | ok results =>
      obtain ⟨summary, -, hrun⟩ := exists_run_of_ok h
      rw [hrun]

theorem run_result :
    (s.run run w).result =
      (s.visit run s.config.packages w).result.map (Report.mk s.command) := by
  cases h : (s.visit run s.config.packages w).result with
  | error fault =>
      rw [run_of_error h]
      rfl
  | ok results =>
      obtain ⟨summary, -, hrun⟩ := exists_run_of_ok h
      rw [hrun]
      rfl

/-- A sweep says what its visits say, after an opening event and before the summary, if any. -/
theorem exists_run_trace (s : Sweep) (run : Runner) (w : World) :
    ∃ summary, (s.run run w).trace =
      .event s.opening :: ((s.visit run s.config.packages w).trace ++ summary) := by
  cases h : (s.visit run s.config.packages w).result with
  | error fault => exact ⟨[], by rw [run_of_error h, List.append_nil]⟩
  | ok results =>
      obtain ⟨summary, -, hrun⟩ := exists_run_of_ok h
      exact ⟨[.event (.summary summary)], by rw [hrun]⟩

theorem run_eq_ok_iff {report : Report} :
    (s.run run w).result = .ok report ↔
      ∃ results, (s.visit run s.config.packages w).result = .ok results ∧
        ⟨s.command, results⟩ = report := by
  rw [run_result, Result.map_eq_ok_iff]

theorem run_eq_error_iff {fault : Fault} :
    (s.run run w).result = .error fault ↔
      (s.visit run s.config.packages w).result = .error fault := by
  rw [run_result, Result.map_eq_error_iff]

end Sweep

end PackageSweep
