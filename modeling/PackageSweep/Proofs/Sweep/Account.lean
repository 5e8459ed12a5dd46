import PackageSweep.Proofs.TotalTime
import PackageSweep.Sweep.Report

/-!
# The account of a report

The views of a report take it apart without loss: gone through in order, each result is the next
entry of one view and of no other. Only executions take time, so the total is that of their
durations, whatever stands between them and in whichever order they come.
-/

namespace PackageSweep

/-- Three lists account for results: each result in turn is the next entry of just one of them. -/
inductive Accounts : List PackageResult → List String → List (String × SkipReason) → List String →
    Prop where
  | nil : Accounts [] [] [] []
  | executed {rs : List PackageResult} {ex : List String} {sk : List (String × SkipReason)}
      {pl : List String} (d : String) (elapsed : Duration) (h : Accounts rs ex sk pl) :
      Accounts (⟨d, .executed elapsed⟩ :: rs) (d :: ex) sk pl
  | skipped {rs : List PackageResult} {ex : List String} {sk : List (String × SkipReason)}
      {pl : List String} (d : String) (reason : SkipReason) (h : Accounts rs ex sk pl) :
      Accounts (⟨d, .skipped reason⟩ :: rs) ex ((d, reason) :: sk) pl
  | planned {rs : List PackageResult} {ex : List String} {sk : List (String × SkipReason)}
      {pl : List String} (d : String) (h : Accounts rs ex sk pl) :
      Accounts (⟨d, .planned⟩ :: rs) ex sk (d :: pl)

/-- The duration of an execution. -/
def PackageResult.time? (r : PackageResult) : Option Duration :=
  match r.outcome with
  | .executed elapsed => some elapsed
  | _ => none

/-- The durations of the executions. -/
def Report.times (r : Report) : List Duration := r.results.filterMap PackageResult.time?

namespace Accounts

variable {rs : List PackageResult} {ex : List String} {sk : List (String × SkipReason)}
  {pl : List String}

theorem of_views (rs : List PackageResult) :
    Accounts rs (rs.filterMap PackageResult.executed?) (rs.filterMap PackageResult.skipped?)
      (rs.filterMap PackageResult.planned?) := by
  induction rs with
  | nil => exact .nil
  | cons r rs ih =>
      obtain ⟨d, outcome⟩ := r
      cases outcome with
      | executed elapsed => exact .executed d elapsed ih
      | skipped reason => exact .skipped d reason ih
      | planned => exact .planned d ih

/-- No other lists account for the results. -/
theorem eq_views (h : Accounts rs ex sk pl) :
    ex = rs.filterMap PackageResult.executed? ∧ sk = rs.filterMap PackageResult.skipped? ∧
      pl = rs.filterMap PackageResult.planned? := by
  induction h with
  | nil => exact ⟨rfl, rfl, rfl⟩
  | executed d elapsed _ ih =>
      obtain ⟨hex, hsk, hpl⟩ := ih
      exact ⟨congrArg (d :: ·) hex, hsk, hpl⟩
  | skipped d reason _ ih =>
      obtain ⟨hex, hsk, hpl⟩ := ih
      exact ⟨hex, congrArg ((d, reason) :: ·) hsk, hpl⟩
  | planned d _ ih =>
      obtain ⟨hex, hsk, hpl⟩ := ih
      exact ⟨hex, hsk, congrArg (d :: ·) hpl⟩

theorem length_eq (h : Accounts rs ex sk pl) :
    ex.length + sk.length + pl.length = rs.length := by
  induction h with
  | nil => rfl
  | executed | skipped | planned =>
      simp only [List.length_cons]
      omega

/-- Each list keeps the order of the results. -/
theorem sublists (h : Accounts rs ex sk pl) :
    ex.Sublist (rs.map PackageResult.directory) ∧
      (sk.map Prod.fst).Sublist (rs.map PackageResult.directory) ∧
      pl.Sublist (rs.map PackageResult.directory) := by
  induction h with
  | nil => exact ⟨.slnil, .slnil, .slnil⟩
  | executed d _ _ ih =>
      obtain ⟨hex, hsk, hpl⟩ := ih
      exact ⟨hex.cons_cons d, hsk.cons d, hpl.cons d⟩
  | skipped d _ _ ih =>
      obtain ⟨hex, hsk, hpl⟩ := ih
      exact ⟨hex.cons d, hsk.cons_cons d, hpl.cons d⟩
  | planned d _ ih =>
      obtain ⟨hex, hsk, hpl⟩ := ih
      exact ⟨hex.cons d, hsk.cons d, hpl.cons_cons d⟩

end Accounts

namespace Duration

/-- What takes no time counts for nothing in a total. -/
theorem total_map_elapsed (rs : List PackageResult) :
    total (rs.map PackageResult.elapsed) = total (rs.filterMap PackageResult.time?) := by
  induction rs with
  | nil => rfl
  | cons r rs ih =>
      obtain ⟨d, outcome⟩ := r
      rw [List.map_cons, total_cons, ih]
      cases outcome with
      | executed elapsed => exact (total_cons elapsed _).symm
      | skipped | planned =>
          have hnone : zero.nanoseconds = 0 := rfl
          rw [PackageResult.elapsed, hnone, Nat.zero_add, List.filterMap_cons_none rfl]

end Duration

namespace Report

variable {r r' : Report}

theorem total?_eq_some_iff {d : Duration} :
    r.total? = some d ↔ d.nanoseconds = Duration.total r.times ∧ d.seconds ≤ Text.maxWord := by
  rw [total?, Duration.sum?_eq_some_iff, Duration.total_map_elapsed, times]

theorem total?_eq_none_iff :
    r.total? = none ↔ Text.maxWord < Duration.total r.times / 1000000000 := by
  rw [total?, Duration.sum?_eq_none_iff, Duration.total_map_elapsed, times]

theorem total?_congr (h : r'.times.Perm r.times) : r'.total? = r.total? := by
  ext d
  rw [total?_eq_some_iff, total?_eq_some_iff, Duration.total_perm h]

theorem times_insert {command : String} {xs ys zs : List PackageResult}
    (h : ∀ x ∈ ys, x.outcome = .planned ∨ ∃ reason, x.outcome = .skipped reason) :
    times ⟨command, xs ++ ys ++ zs⟩ = times ⟨command, xs ++ zs⟩ := by
  have hnone : ys.filterMap PackageResult.time? = [] := by
    rw [List.filterMap_eq_nil_iff]
    intro x hx
    obtain hplanned | ⟨reason, hskipped⟩ := h x hx
    · rw [PackageResult.time?, hplanned]
    · rw [PackageResult.time?, hskipped]
  simp only [times, List.filterMap_append, hnone, List.append_nil]

theorem summary?_of_total? {d : Duration} (h : r.total? = some d) :
    r.summary? =
      some ⟨r.command, r.executed, r.skipped.map Prod.fst, r.planned, d.millis⟩ := by
  rw [summary?, h]
  rfl

/-- The views of a report account for its results, each of them once and in order, and its total is
the exact sum of the durations of its executions. It is there unless the seconds are too many, it
depends neither on the order of the results nor on those that were not executed, and with it there
is a summary of the views and of the total in milliseconds. -/
theorem views_account (r : Report) :
    (∀ ex sk pl, Accounts r.results ex sk pl ↔
      ex = r.executed ∧ sk = r.skipped ∧ pl = r.planned) ∧
    r.executed.Sublist (r.results.map PackageResult.directory) ∧
    (r.skipped.map Prod.fst).Sublist (r.results.map PackageResult.directory) ∧
    r.planned.Sublist (r.results.map PackageResult.directory) ∧
    r.executed.length + r.skipped.length + r.planned.length = r.results.length ∧
    r.total? = Duration.tallied? (r.results.map PackageResult.elapsed) ∧
    (∀ d, r.total? = some d ↔
      d.nanoseconds = Duration.total r.times ∧ d.seconds ≤ 2 ^ 64 - 1) ∧
    (r.total? = none ↔ 2 ^ 64 - 1 < Duration.total r.times / 10 ^ 9) ∧
    (∀ r' : Report, r'.results.Perm r.results → r'.total? = r.total?) ∧
    (∀ xs ys zs, r.results = xs ++ zs →
      (∀ x ∈ ys, x.outcome = .planned ∨ ∃ reason, x.outcome = .skipped reason) →
      total? ⟨r.command, xs ++ ys ++ zs⟩ = r.total?) ∧
    (∀ d, r.total? = some d → ∃ s, r.summary? = some s ∧
      s.json.field? "command" = some (.text r.command) ∧
      s.json.field? "executed" = some (.array (r.executed.map .text)) ∧
      s.json.field? "skipped" = some (.array ((r.skipped.map Prod.fst).map .text)) ∧
      s.json.field? "planned" = some (.array (r.planned.map .text)) ∧
      s.json.field? "total_duration_ms" =
        some (.number (Text.numeral (Duration.total r.times / 10 ^ 6 % 2 ^ 64)))) := by
  have haccount : Accounts r.results r.executed r.skipped r.planned := .of_views r.results
  obtain ⟨hexecuted, hskipped, hplanned⟩ := haccount.sublists
  refine ⟨fun ex sk pl => ⟨Accounts.eq_views, ?_⟩, hexecuted, hskipped, hplanned,
    haccount.length_eq, ?_, fun d => total?_eq_some_iff, total?_eq_none_iff, fun r' hperm => ?_,
    fun xs ys zs hsplit hys => ?_, fun d hd => ?_⟩
  · rintro ⟨rfl, rfl, rfl⟩
    exact haccount
  · rw [Duration.tallied?_eq_sum?, total?]
  · exact total?_congr (hperm.filterMap PackageResult.time?)
  · have htimes : times ⟨r.command, xs ++ ys ++ zs⟩ = r.times := by
      rw [times_insert hys, times, times, hsplit]
    exact total?_congr (.of_eq htimes)
  · obtain ⟨hsum, -⟩ := total?_eq_some_iff.mp hd
    have hmillis : d.millis = Duration.total r.times / 10 ^ 6 % 2 ^ 64 := by
      rw [← hsum]
      exact Duration.millis_eq d
    rw [← hmillis]
    exact ⟨_, summary?_of_total? hd, rfl, rfl, rfl, rfl, rfl⟩

/-- One nanosecond part carries the sum to its last whole second, and another one beyond it. -/
theorem nearly_full_account :
    let a : PackageResult := ⟨"a", .executed ⟨2 ^ 64 - 2, 600000000, by decide⟩⟩
    let b : PackageResult := ⟨"b", .skipped .windowsOnly⟩
    let c : PackageResult := ⟨"c", .planned⟩
    let d : PackageResult := ⟨"d", .executed ⟨0, 500000000, by decide⟩⟩
    let e : PackageResult := ⟨"e", .executed ⟨0, 900000000, by decide⟩⟩
    let total : Duration := ⟨2 ^ 64 - 1, 100000000, by decide⟩
    let r : Report := ⟨"cargo check", [a, b, d]⟩
    Accounts [a, b, d] ["a", "d"] [("b", .windowsOnly)] [] ∧
    r.total? = some total ∧
    total? ⟨"cargo check", [d, b, a]⟩ = some total ∧
    total? ⟨"cargo check", [a, b] ++ [c] ++ [d]⟩ = some total ∧
    total? ⟨"cargo check", [a, b, d, e]⟩ = none ∧
    ∃ s, r.summary? = some s ∧
      s.json.field? "total_duration_ms" = some (.number "18446744073709550716".toList) := by
  intro a b c d e total r
  obtain ⟨hviews, -, -, -, -, -, hsome, -, hperm, hinsert, hsummary⟩ := views_account r
  have htotal : r.total? = some total := (hsome total).mpr (by decide)
  obtain ⟨s, hs, -, -, -, -, hmillis⟩ := hsummary total htotal
  obtain ⟨-, -, -, -, -, -, -, hnone, -⟩ := views_account ⟨"cargo check", [a, b, d, e]⟩
  have hdigits : Text.numeral (Duration.total r.times / 10 ^ 6 % 2 ^ 64) =
      "18446744073709550716".toList := by
    decide +kernel
  refine ⟨(hviews _ _ _).mpr ⟨rfl, rfl, rfl⟩, htotal, ?_, ?_, hnone.mpr (by decide), s, hs, ?_⟩
  · exact (hperm ⟨"cargo check", [d, b, a]⟩ (List.reverse_perm [a, b, d])).trans htotal
  · exact (hinsert [a, b] [c] [d] rfl (by simp [c])).trans htotal
  · rw [hmillis, hdigits]

end Report

end PackageSweep
