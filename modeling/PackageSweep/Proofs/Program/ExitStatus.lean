import PackageSweep.Proofs.Program.Preparation
import PackageSweep.Proofs.Sweep.CallSequence

/-!
# The exit status of a sweep

A raw wait status is read twice: once for whether the child succeeded and once for its code. A fault
made of both then becomes an exit number, of which the system keeps the low eight bits. Along this
way nothing but the raw status zero turns into success, so the program ends with zero exactly when
every package that is not passed over had a child that ended with it.
-/

namespace PackageSweep

/-- A raw wait status says that the child ended by itself, with this code. -/
def Exited (wait : UInt32) (code : Nat) : Prop :=
  wait.toNat % 128 = 0 ∧ wait.toNat / 256 % 256 = code

/-- The exit status of a program whose first failing child ended in this way, or did not start. -/
inductive Blamed : Except IoCause UInt32 → Nat → Prop where
  | code {wait : UInt32} {code : Nat} (hexited : Exited wait code) (hcode : code ≠ 0) :
      Blamed (.ok wait) code
  /-- A signal ended the child. -/
  | signal {wait : UInt32} (hexited : ∀ code, ¬ Exited wait code) : Blamed (.ok wait) 1
  /-- The code is that of a success, but the raw status is not. -/
  | oddZero {wait : UInt32} (hexited : Exited wait 0) (hwait : wait ≠ 0) : Blamed (.ok wait) 1
  | notStarted (cause : IoCause) : Blamed (.error cause) 1

theorem Blamed.ne_zero {child : Except IoCause UInt32} {status : Nat} (h : Blamed child status) :
    status ≠ 0 := by
  cases h with
  | code _ hcode => exact hcode
  | signal _ => decide
  | oddZero _ _ => decide
  | notStarted _ => decide

namespace Status

variable {wait : UInt32} {code : Nat}

theorem toNat_lowSeven (wait : UInt32) : (wait &&& 0x7f).toNat = wait.toNat % 128 := by
  rw [UInt32.toNat_and]
  exact Nat.and_two_pow_sub_one_eq_mod wait.toNat 7

theorem toNat_secondByte (wait : UInt32) :
    ((wait >>> 8) &&& 0xff).toNat = wait.toNat / 256 % 256 := by
  have hshift : (wait >>> 8).toNat = wait.toNat / 256 := by
    rw [UInt32.toNat_shiftRight]
    exact Nat.shiftRight_eq_div_pow wait.toNat 8
  rw [UInt32.toNat_and, hshift]
  exact Nat.and_two_pow_sub_one_eq_mod (wait.toNat / 256) 8

theorem lowSeven_eq_zero_iff : wait &&& 0x7f = 0 ↔ wait.toNat % 128 = 0 := by
  rw [← toNat_lowSeven, ← UInt32.toNat_inj]
  rfl

theorem ofWait_success (wait : UInt32) : (ofWait wait).success = (wait == 0) := rfl

theorem ofWait_code_of_exited (h : Exited wait code) : (ofWait wait).code = some (code : Int) := by
  obtain ⟨hlow, rfl⟩ := h
  rw [ofWait, if_pos (lowSeven_eq_zero_iff.mpr hlow), toNat_secondByte]

theorem ofWait_code_of_not_exited (h : ∀ code, ¬ Exited wait code) : (ofWait wait).code = none := by
  have hlow : ¬ wait &&& 0x7f = 0 := by
    intro hzero
    exact h _ ⟨lowSeven_eq_zero_iff.mp hzero, rfl⟩
  rw [ofWait, if_neg hlow]

end Status

theorem Exited.code_lt {wait : UInt32} {code : Nat} (h : Exited wait code) : code < 256 := by
  obtain ⟨-, rfl⟩ := h
  exact Nat.mod_lt _ (by decide)

namespace Spawner

/-- All children of a row of calls were started, and ended with the raw wait status zero. -/
def EndsWell (spawn : Spawner) (calls : List Call) (w : World) : Prop :=
  ∀ before call later, calls = before ++ call :: later →
    (spawn call (spawn.runner.after w before)).wait = .ok 0

variable {spawn : Spawner} {call : Call} {w : World}

theorem runner_result_of_ok {wait : UInt32} (h : (spawn call w).wait = .ok wait) :
    (spawn.runner call w).result = .ok (.ofWait wait) := by
  simp [runner, h]

theorem runner_result_of_error {cause : IoCause} (h : (spawn call w).wait = .error cause) :
    (spawn.runner call w).result = .error (.spawn call.path call.command cause) := by
  simp [runner, h]

/-- The only way for a call not to fail is that its child ends with the raw wait status zero. -/
theorem failed_runner_eq_false_iff :
    (spawn.runner call w).failed = false ↔ (spawn call w).wait = .ok 0 := by
  cases hwait : (spawn call w).wait with
  | error cause => simp [Reply.failed, runner_result_of_error hwait]
  | ok wait =>
      simp [Reply.failed, runner_result_of_ok hwait, Status.ofWait_success]

theorem passes_runner_iff {calls : List Call} :
    spawn.runner.Passes calls w ↔ spawn.EndsWell calls w := by
  constructor
  · intro h before call later hcalls
    exact failed_runner_eq_false_iff.mp (h before call later hcalls)
  · intro h before call later hcalls
    exact failed_runner_eq_false_iff.mpr (h before call later hcalls)

end Spawner

namespace Sweep

variable {s : Sweep} {spawn : Spawner} {d : String} {w : World}

/-- Every package that is not passed over had its child started, and all of them ended with the raw
wait status zero. -/
def AllWell (s : Sweep) (spawn : Spawner) (w : World) (made : List Call) : Prop :=
  made = s.dueCalls (s.judged spawn.runner s.config.packages w) ∧ spawn.EndsWell made w

/-- The calls end with that for the first package whose child fails, and this status is due to it.
-/
def FirstFailure (s : Sweep) (spawn : Spawner) (w : World) (made : List Call) (status : Nat) :
    Prop :=
  ∃ before d later, s.config.packages = before ++ d :: later ∧
    made = s.dueCalls (s.judged spawn.runner before w) ++ [s.call d] ∧
    spawn.EndsWell (s.dueCalls (s.judged spawn.runner before w)) w ∧
    Blamed (spawn (s.call d)
      (spawn.runner.after w (s.dueCalls (s.judged spawn.runner before w)))).wait status

theorem FirstFailure.ne_zero {made : List Call} {status : Nat}
    (h : s.FirstFailure spawn w made status) : status ≠ 0 := by
  obtain ⟨_, _, _, _, _, _, hblamed⟩ := h
  exact hblamed.ne_zero

/-- The low eight bits of the exit number are the status that the failing child is due. -/
theorem blamed_of_endsOn {fault : Fault} (h : s.EndsOn d (spawn.runner (s.call d) w) fault) :
    Blamed (spawn (s.call d) w).wait (fault.exitCode % 256).toNat := by
  cases hwait : (spawn (s.call d) w).wait with
  | error cause =>
      have hresult := Spawner.runner_result_of_error hwait
      rcases h with h | ⟨status, h, -⟩
      · obtain rfl := Except.error.inj (hresult.symm.trans h)
        exact .notStarted cause
      · simp [hresult] at h
  | ok wait =>
      have hresult := Spawner.runner_result_of_ok hwait
      rcases h with h | ⟨status, h, hsuccess, rfl⟩
      · simp [hresult] at h
      · obtain rfl := Except.ok.inj (hresult.symm.trans h)
        have hne : wait ≠ 0 := by
          simpa [Status.ofWait_success] using hsuccess
        by_cases hexited : ∃ code, Exited wait code
        · obtain ⟨code, hexited⟩ := hexited
          rw [Status.ofWait_code_of_exited hexited, Fault.exitCode]
          by_cases hcode : code = 0
          · subst hcode
            exact .oddZero hexited hne
          · have hlt := hexited.code_lt
            have hpassed : ((code : Int) % 256).toNat = code := by omega
            rw [if_neg (by exact_mod_cast hcode), hpassed]
            exact .code hexited hcode
        · have hsignal : ∀ code, ¬ Exited wait code := not_exists.mp hexited
          rw [Status.ofWait_code_of_not_exited hsignal]
          exact .signal hsignal

/-- A sweep ends well exactly when all its children do. -/
theorem exists_run_ok_iff_allWell (hdry : s.dry = false) :
    (∃ report, (s.run spawn.runner w).result = .ok report) ↔
      s.AllWell spawn w (s.run spawn.runner w).calls := by
  constructor
  · rintro ⟨report, h⟩
    obtain ⟨results, hresults, -⟩ := run_eq_ok_iff.mp h
    obtain ⟨-, hcalls, hpasses⟩ := visit_of_ok hdry hresults
    rw [run_calls, AllWell, hcalls]
    exact ⟨rfl, Spawner.passes_runner_iff.mp hpasses⟩
  · rintro ⟨-, hwell⟩
    exact (exists_run_ok_iff hdry).mpr (Spawner.passes_runner_iff.mpr hwell)

/-- A sweep that ends on a fault ends with the first child that fails. -/
theorem firstFailure_of_run_error (hdry : s.dry = false) {fault : Fault}
    (h : (s.run spawn.runner w).result = .error fault) :
    s.FirstFailure spawn w (s.run spawn.runner w).calls (fault.exitCode % 256).toNat := by
  obtain ⟨before, d, later, hlist, hcalls, hpasses, hends⟩ :=
    exists_first_failure hdry (run_eq_error_iff.mp h)
  refine ⟨before, d, later, hlist, ?_, ?_, ?_⟩
  · rw [run_calls]
    exact hcalls
  · exact Spawner.passes_runner_iff.mp hpasses
  · exact blamed_of_endsOn hends

end Sweep

namespace SweepProgram

variable {a : SweepArguments} {c : Config}

/-- With all prepared and not dry, the program ends with zero exactly when every package that is not
passed over had a child that ended with the raw wait status zero. Otherwise the first child that
fails gives it its exit status, which is never zero. -/
theorem exit_status (words : Wording) (platform : Platform) (spawn : Spawner)
    (args : List String) (w : World) (hargs : SweepArguments.read args = .ok a)
    (hreal : a.dryRun = false) (hprepared : Prepared a w c) :
    ((main words platform spawn args w).status = 0 ↔
        (sweep platform a c).AllWell spawn w (run words platform spawn a w).calls) ∧
      ((main words platform spawn args w).status ≠ 0 →
        (sweep platform a c).FirstFailure spawn w (run words platform spawn a w).calls
          (main words platform spawn args w).status) ∧
      ∀ fault, ((sweep platform a c).run spawn.runner w).result = .error fault →
        (main words platform spawn args w).status ≠ 0 := by
  obtain ⟨before, after, hrun⟩ := run_of_prepared words platform spawn hprepared
  have hcalls : (run words platform spawn a w).calls =
      ((sweep platform a c).run spawn.runner w).calls := by
    rw [hrun]
  have hstatus : (main words platform spawn args w).status =
      (exitOf ((sweep platform a c).run spawn.runner w).result % 256).toNat := by
    rw [main_of_read words platform spawn hargs w, hrun]
    rfl
  have hok : (∃ report, ((sweep platform a c).run spawn.runner w).result = .ok report) ↔
      (sweep platform a c).AllWell spawn w ((sweep platform a c).run spawn.runner w).calls :=
    Sweep.exists_run_ok_iff_allWell hreal
  rw [hcalls, hstatus]
  cases hresult : ((sweep platform a c).run spawn.runner w).result with
  | ok report =>
      refine ⟨?_, ?_, ?_⟩
      · exact iff_of_true rfl (hok.mp ⟨report, hresult⟩)
      · intro hne
        exact absurd rfl hne
      · intro fault hfault
        simp at hfault
  | error fault =>
      have hfirst := Sweep.firstFailure_of_run_error hreal hresult
      have hne : (fault.exitCode % 256).toNat ≠ 0 := hfirst.ne_zero
      refine ⟨iff_of_false hne ?_, fun _ => hfirst, fun _ _ => hne⟩
      intro hwell
      obtain ⟨report, hreport⟩ := hok.mpr hwell
      simp [hresult] at hreport

/-- Children of which the one in `bin/oay` ends with code zero and a raw status that is not zero. -/
def stray : Spawner where
  start call w :=
    ⟨.ok (if call.path = "ws/bin/oay" then 0x10000 else 0),
      { w with tree := w.tree.put ["mark"] (.file (Utf8.ofString call.path)) }, []⟩
  onward := Call.clock_le

theorem stray_exit_status :
    SweepArguments.read ["--root", "ws", "-v", "make", "-k"] =
        .ok ⟨"ws", none, false, true, false, ["make", "-k"]⟩ ∧
      Prepared ⟨"ws", none, false, true, false, ["make", "-k"]⟩ .empty .builtin ∧
      (main .plain .linux stray ["--root", "ws", "-v", "make", "-k"] .empty).status = 1 ∧
      (sweep .linux ⟨"ws", none, false, true, false, ["make", "-k"]⟩ .builtin).FirstFailure
        stray .empty [⟨"make -k", "ws/core"⟩, ⟨"make -k", "ws/bin/oay"⟩] 1 := by
  have hargs : SweepArguments.read ["--root", "ws", "-v", "make", "-k"] =
      .ok ⟨"ws", none, false, true, false, ["make", "-k"]⟩ := by
    rfl
  have hprepared : Prepared ⟨"ws", none, false, true, false, ["make", "-k"]⟩ .empty .builtin :=
    ⟨rfl, by with_unfolding_all rfl, rfl⟩
  have hstatus :
      (main .plain .linux stray ["--root", "ws", "-v", "make", "-k"] .empty).status = 1 := by
    decide +kernel
  have hcalls :
      (run .plain .linux stray ⟨"ws", none, false, true, false, ["make", "-k"]⟩ .empty).calls =
        [⟨"make -k", "ws/core"⟩, ⟨"make -k", "ws/bin/oay"⟩] := by
    decide +kernel
  obtain ⟨-, hfirst, -⟩ := exit_status .plain .linux stray _ .empty hargs rfl hprepared
  rw [hstatus, hcalls] at hfirst
  exact ⟨hargs, hprepared, hstatus, hfirst (by decide)⟩

end SweepProgram

end PackageSweep
