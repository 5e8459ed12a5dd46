import PackageSweep.Duration
import PackageSweep.Json.Writer
import PackageSweep.Sweep.Skip

/-!
# Reports

A report says what became of each package, in the order of the list. Its views pick out the packages
that were executed, skipped or planned; every result is in exactly one of them.
-/

namespace PackageSweep

/-- What became of a package. -/
inductive Outcome where
  | executed (elapsed : Duration)
  | skipped (reason : SkipReason)
  /-- It would have been executed. -/
  | planned

structure PackageResult where
  directory : String
  outcome : Outcome

structure Report where
  command : String
  results : List PackageResult

/-- A report in short: the directories of each view, and the total time in milliseconds. -/
structure Summary where
  command : String
  executed : List String
  skipped : List String
  planned : List String
  millis : Nat
  deriving DecidableEq

namespace PackageResult

def executed? (r : PackageResult) : Option String :=
  match r.outcome with
  | .executed _ => some r.directory
  | _ => none

def skipped? (r : PackageResult) : Option (String × SkipReason) :=
  match r.outcome with
  | .skipped reason => some (r.directory, reason)
  | _ => none

def planned? (r : PackageResult) : Option String :=
  match r.outcome with
  | .planned => some r.directory
  | _ => none

/-- The time that the package took. Only an execution takes any. -/
def elapsed (r : PackageResult) : Duration :=
  match r.outcome with
  | .executed elapsed => elapsed
  | _ => .zero

@[simp] theorem elapsed_skipped (d : String) (reason : SkipReason) :
    elapsed ⟨d, .skipped reason⟩ = .zero := rfl

@[simp] theorem elapsed_planned (d : String) : elapsed ⟨d, .planned⟩ = .zero := rfl

end PackageResult

namespace Report

def executed (r : Report) : List String := r.results.filterMap PackageResult.executed?

def skipped (r : Report) : List (String × SkipReason) := r.results.filterMap PackageResult.skipped?

def planned (r : Report) : List String := r.results.filterMap PackageResult.planned?

/-- The time that all packages took together, if its seconds fit 64 bits. -/
def total? (r : Report) : Option Duration := Duration.sum? (r.results.map PackageResult.elapsed)

/-- The report in short, with this total. -/
def inShort (r : Report) (total : Duration) : Summary where
  command := r.command
  executed := r.executed
  skipped := r.skipped.map (·.1)
  planned := r.planned
  millis := total.millis

/-- The report in short. There is none when there is no total. -/
def summary? (r : Report) : Option Summary := r.total?.map r.inShort

theorem summary?_of_isSome {r : Report} (h : r.total?.isSome) :
    r.summary? = some (r.inShort (r.total?.get h)) :=
  Option.map_eq_some_iff.mpr ⟨_, (Option.some_get h).symm, rfl⟩

end Report

namespace Summary

def texts (ss : List String) : Json.Value := .array (ss.map .text)

/-- The summary as a JSON object, members by name. -/
def json (s : Summary) : Json.Value :=
  .object
    [("command", .text s.command),
      ("executed", texts s.executed),
      ("planned", texts s.planned),
      ("skipped", texts s.skipped),
      ("total_duration_ms", .number (Text.numeral s.millis))]

def text (s : Summary) : String := String.ofList s.json.compact

end Summary

end PackageSweep
