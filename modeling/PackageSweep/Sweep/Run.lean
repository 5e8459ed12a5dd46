import PackageSweep.Sweep.Runner

/-!
# Sweeps

A sweep visits the packages of a configuration in order and runs one command in each, unless the
package is passed over. It stops at the first failure. A dry sweep runs nothing and says what would
be run.

The clock is read before each call and after it. The times in between follow one another, so the
clock bounds their sum: to add them up for the report cannot fail.
-/

namespace PackageSweep

/-- What a sweep is to do. -/
structure Sweep where
  config : Config
  platform : Platform
  root : String
  command : String
  dry : Bool := false

/-- What a sweep, or part of one, leaves behind, and the calls of the runner that it made. -/
structure Ending (α : Type) where
  result : Except Fault α
  world : World
  calls : List Call := []
  trace : Trace

namespace Sweep

/-- Why the sweep passes a package over in a world, if it does. -/
def skip? (s : Sweep) (directory : String) (w : World) : Option SkipReason :=
  skipReason s.config s.platform s.root directory s.command w

def call (s : Sweep) (directory : String) : Call :=
  ⟨s.command, Directory.resolve s.root directory⟩

def execute (s : Sweep) (run : Runner) (directory : String) (w : World) : Ending Outcome :=
  let call := s.call directory
  let reply := run call w
  match reply.result with
  | .error fault => ⟨.error fault, reply.world, [call], reply.trace⟩
  | .ok status =>
    if status.success then
      let elapsed := run.elapsed call w
      ⟨.ok (.executed elapsed), reply.world, [call],
        reply.trace ++ [.event (.finished directory elapsed)]⟩
    else
      ⟨.error (.commandFailed directory s.command status.code), reply.world, [call],
        reply.trace ++ [.event (.failed s.command directory status.code)]⟩

/-- Decides what to do with one package, and does it. -/
def handle (s : Sweep) (run : Runner) (directory : String) (w : World) : Ending Outcome :=
  match s.skip? directory w with
  | some reason => ⟨.ok (.skipped reason), w, [], [.event (.skipped directory reason)]⟩
  | none =>
    if s.dry then ⟨.ok .planned, w, [], [.event (.planned s.command directory)]⟩
    else s.execute run directory w

/-- Visits packages in order, up to the first failure. -/
def visit (s : Sweep) (run : Runner) : List String → World → Ending (List PackageResult)
  | [], w => ⟨.ok [], w, [], []⟩
  | d :: ds, w =>
    let one := s.handle run d w
    let opening := Signal.event (.executing s.command d)
    match one.result with
    | .error fault => ⟨.error fault, one.world, one.calls, opening :: one.trace⟩
    | .ok outcome =>
      let rest := s.visit run ds one.world
      ⟨rest.result.map (⟨d, outcome⟩ :: ·), rest.world, one.calls ++ rest.calls,
        opening :: (one.trace ++ rest.trace)⟩

section Time

variable {s : Sweep} {run : Runner} {d : String} {ds : List String} {w : World}

theorem clock_of_execute_ok {outcome : Outcome} (h : (s.execute run d w).result = .ok outcome) :
    (PackageResult.elapsed ⟨d, outcome⟩).nanoseconds + w.clock.nanoseconds =
      (s.execute run d w).world.clock.nanoseconds := by
  have honward := Instant.nanoseconds_since (run.onward (s.call d) w)
  cases hreply : (run (s.call d) w).result with
  | error fault => simp [execute, hreply] at h
  | ok status =>
      cases hsuccess : status.success with
      | false => simp [execute, hreply, hsuccess] at h
      | true =>
          simp only [execute, hreply, hsuccess, if_true] at h ⊢
          obtain rfl := Except.ok.inj h
          exact honward

/-- A package takes the time by which the clock goes on until the sweep is done with it. -/
theorem clock_of_handle_ok {outcome : Outcome} (h : (s.handle run d w).result = .ok outcome) :
    (PackageResult.elapsed ⟨d, outcome⟩).nanoseconds + w.clock.nanoseconds =
      (s.handle run d w).world.clock.nanoseconds := by
  cases hskip : s.skip? d w with
  | some reason =>
      simp only [handle, hskip] at h ⊢
      obtain rfl := Except.ok.inj h
      rw [PackageResult.elapsed_skipped, Duration.nanoseconds_zero, Nat.zero_add]
  | none =>
      cases hdry : s.dry with
      | true =>
          simp only [handle, hskip, hdry, if_true] at h ⊢
          obtain rfl := Except.ok.inj h
          rw [PackageResult.elapsed_planned, Duration.nanoseconds_zero, Nat.zero_add]
      | false =>
          simp only [handle, hskip, hdry, Bool.false_eq_true, if_false] at h ⊢
          exact clock_of_execute_ok h

/-- The times of packages add up to that by which the clock goes on, by induction on the packages.
-/
theorem clock_of_visit_ok {results : List PackageResult}
    (h : (s.visit run ds w).result = .ok results) :
    Duration.total (results.map PackageResult.elapsed) + w.clock.nanoseconds =
      (s.visit run ds w).world.clock.nanoseconds := by
  induction ds generalizing w results with
  | nil =>
      obtain rfl : [] = results := Except.ok.inj h
      simp [visit]
  | cons d ds ih =>
      cases hone : (s.handle run d w).result with
      | error fault => simp [visit, hone] at h
      | ok outcome =>
          cases hrest : (s.visit run ds (s.handle run d w).world).result with
          | error fault => simp [visit, hone, hrest, Except.map] at h
          | ok rest =>
              simp only [visit, hone, hrest, Except.map] at h ⊢
              obtain rfl := Except.ok.inj h
              have hfirst := clock_of_handle_ok hone
              have hlater := ih hrest
              rw [List.map_cons, Duration.total_cons]
              omega

theorem isSome_total?_of_visit_ok {results : List PackageResult}
    (h : (s.visit run ds w).result = .ok results) (command : String) :
    (Report.mk command results).total?.isSome := by
  have hclock := clock_of_visit_ok h
  have hfits := Instant.seconds_le (Nat.le.intro hclock)
  rw [Option.isSome_iff_ne_none, Report.total?, Ne, Duration.sum?_eq_none_iff]
  exact Nat.not_lt.mpr hfits

end Time

def opening (s : Sweep) : Event :=
  .opening s.command s.config.packages.length s.root s.platform.os

def run (s : Sweep) (runner : Runner) (w : World) : Ending Report :=
  let visits := s.visit runner s.config.packages w
  match h : visits.result with
  | .error fault => ⟨.error fault, visits.world, visits.calls, .event s.opening :: visits.trace⟩
  | .ok results =>
    let report : Report := ⟨s.command, results⟩
    let total := report.total?.get (isSome_total?_of_visit_ok h s.command)
    ⟨.ok report, visits.world, visits.calls,
      .event s.opening :: (visits.trace ++ [.event (.summary (report.inShort total))])⟩

theorem isSome_total?_of_run_ok {s : Sweep} {runner : Runner} {w : World} {report : Report}
    (h : (s.run runner w).result = .ok report) : report.total?.isSome := by
  rw [run] at h
  split at h
  · simp at h
  · rename_i results hresults
    obtain rfl := Except.ok.inj h
    exact isSome_total?_of_visit_ok hresults s.command

end Sweep

end PackageSweep
