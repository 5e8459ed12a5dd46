import PackageSweep.Program.Sweep
import PackageSweep.Proofs.Arguments.Acceptance
import PackageSweep.Proofs.Program.Streams
import PackageSweep.Proofs.Result

/-!
# What happens before a sweep

Before the sweep program does anything it checks its arguments, loads the configuration and checks
that too. Each of these steps fails on faults of one kind, which end the program with 2. Nothing has
been called, changed or printed by then, except for the log and the fault itself. Otherwise the
sweep begins, with what was loaded and given.
-/

namespace PackageSweep

/-- A fault of the arguments or of the configuration. -/
inductive Fault.IsSetup : Fault → Prop where
  | config (cause : ConfigCause) : IsSetup (.config cause)
  | invalidValue (field value : String) (offence : Offence) :
      IsSetup (.invalidValue field value offence)

theorem Fault.IsSetup.exitCode_eq {f : Fault} (h : f.IsSetup) : f.exitCode = 2 := by
  cases h <;> rfl

section Checks

variable {f : Fault}

theorem Config.isSetup_of_validate_eq_error {c : Config} (h : c.validate = .error f) :
    f.IsSetup := by
  cases validate_eq_error_iff.mp h with
  | noPackages => exact .config _
  | _ => exact .invalidValue _ _ _

theorem SweepArguments.isSetup_of_validate_eq_error {a : SweepArguments}
    (h : a.validate = .error f) : f.IsSetup := by
  cases validate_eq_error_iff.mp h with
  | _ => exact .invalidValue _ _ _

theorem Config.isSetup_of_load_eq_error {root : String} {explicit : Option String} {w : World}
    (h : (Config.load root explicit w).1 = .error f) : f.IsSetup := by
  rw [load] at h
  cases hsource : Source.choose root explicit w with
  | builtin => simp [hsource, ofSource] at h
  | file path =>
      rw [hsource, ofSource, ofFile] at h
      cases htext : w.readText path with
      | error cause =>
          rw [htext] at h
          obtain rfl := Except.error.inj h
          exact .config _
      | ok text =>
          simp only [htext, ofText] at h
          obtain ⟨cause, -, rfl⟩ := Result.mapError_eq_error_iff.mp h
          exact .config cause

end Checks

namespace SweepProgram

/-- The arguments and the configuration that they ask for pass their checks. -/
structure Prepared (a : SweepArguments) (w : World) (c : Config) : Prop where
  arguments : a.validate = .ok ()
  loaded : (Config.load a.root a.config w).1 = .ok c
  validated : c.validate = .ok ()

/-- The first step of the preparation that fails does so on this fault. -/
inductive Refused (a : SweepArguments) (w : World) (fault : Fault) : Prop where
  | arguments (hfault : a.validate = .error fault)
  | loading (harguments : a.validate = .ok ())
      (hfault : (Config.load a.root a.config w).1 = .error fault)
  | validation {c : Config} (harguments : a.validate = .ok ())
      (hloaded : (Config.load a.root a.config w).1 = .ok c) (hfault : c.validate = .error fault)

variable {a : SweepArguments} {w : World} {c : Config} {fault : Fault}

theorem prepared_iff :
    Prepared a w c ↔
      a.Accepted ∧ (Config.load a.root a.config w).1 = .ok c ∧ c.WellFormed := by
  rw [← SweepArguments.validate_eq_ok_iff, ← Config.validate_eq_ok_iff_wellFormed]
  constructor
  · rintro ⟨harguments, hloaded, hvalidated⟩
    exact ⟨harguments, hloaded, hvalidated⟩
  · rintro ⟨harguments, hloaded, hvalidated⟩
    exact ⟨harguments, hloaded, hvalidated⟩

/-- What refuses a sweep is the first rule that is broken, of the arguments before the loading and
of the configuration after it. -/
theorem refused_iff :
    Refused a w fault ↔
      a.EarliestOffence fault ∨
        a.Accepted ∧ ((Config.load a.root a.config w).1 = .error fault ∨
          ∃ c, (Config.load a.root a.config w).1 = .ok c ∧ c.EarliestOffence fault) := by
  simp only [← SweepArguments.validate_eq_error_iff, ← SweepArguments.validate_eq_ok_iff,
    ← Config.validate_eq_error_iff]
  constructor
  · intro h
    cases h with
    | arguments hfault => exact .inl hfault
    | loading harguments hfault => exact .inr ⟨harguments, .inl hfault⟩
    | validation harguments hloaded hfault =>
        exact .inr ⟨harguments, .inr ⟨_, hloaded, hfault⟩⟩
  · rintro (hfault | ⟨harguments, hfault | ⟨c, hloaded, hfault⟩⟩)
    · exact .arguments hfault
    · exact .loading harguments hfault
    · exact .validation harguments hloaded hfault

theorem Refused.isSetup (h : Refused a w fault) : fault.IsSetup := by
  cases h with
  | arguments hfault => exact SweepArguments.isSetup_of_validate_eq_error hfault
  | loading _ hfault => exact Config.isSetup_of_load_eq_error hfault
  | validation _ _ hfault => exact Config.isSetup_of_validate_eq_error hfault

theorem prepare_of_prepared (h : Prepared a w c) :
    prepare a w = (.ok c, (Config.load a.root a.config w).2) := by
  rw [prepare, h.arguments, Config.load_eq_of_fst h.loaded]
  simp only [h.validated]

theorem prepare_of_refused (h : Refused a w fault) :
    ∃ trace, prepare a w = (.error fault, trace) ∧ Trace.IsLog trace := by
  cases h with
  | arguments hfault => exact ⟨[], by rw [prepare, hfault], Trace.isLog_nil⟩
  | loading harguments hfault =>
      refine ⟨_, ?_, Config.isLog_load a.root a.config w⟩
      rw [prepare, harguments, Config.load_eq_of_fst hfault]
  | validation harguments hloaded hfault =>
      refine ⟨_, ?_, Config.isLog_load a.root a.config w⟩
      rw [prepare, harguments, Config.load_eq_of_fst hloaded]
      simp only [hfault]

theorem exists_refused_iff : (∃ fault, Refused a w fault) ↔ ¬ ∃ c, Prepared a w c := by
  constructor
  · rintro ⟨fault, hrefused⟩ ⟨c, hprepared⟩
    obtain ⟨trace, htrace, -⟩ := prepare_of_refused hrefused
    rw [prepare_of_prepared hprepared] at htrace
    simp at htrace
  · intro hnot
    cases harguments : a.validate with
    | error fault => exact ⟨fault, .arguments harguments⟩
    | ok _ =>
        cases hloaded : (Config.load a.root a.config w).1 with
        | error fault => exact ⟨fault, .loading harguments hloaded⟩
        | ok c =>
            cases hvalidated : c.validate with
            | error fault => exact ⟨fault, .validation harguments hloaded hvalidated⟩
            | ok _ => exact absurd ⟨c, harguments, hloaded, hvalidated⟩ hnot

/-- The exit number, once the sweep has begun, is that of its fault, if it ends on one. -/
def exitOf : Except Fault Report → Int
  | .ok _ => 0
  | .error fault => fault.exitCode

/-- With all prepared, the program is its sweep, with something said before and after it. -/
theorem run_of_prepared (words : Wording) (platform : Platform) (spawn : Spawner)
    (h : Prepared a w c) :
    ∃ before after, run words platform spawn a w =
      { exit := exitOf ((sweep platform a c).run spawn.runner w).result
        world := ((sweep platform a c).run spawn.runner w).world
        calls := ((sweep platform a c).run spawn.runner w).calls
        trace := before ++ ((sweep platform a c).run spawn.runner w).trace ++ after } := by
  rw [run, prepare_of_prepared h]
  dsimp only
  split
  · rename_i fault hfault
    rw [hfault]
    exact ⟨_, _, rfl⟩
  · rename_i report hreport
    have hexit : exitOf ((sweep platform a c).run spawn.runner w).result = 0 := by
      rw [hreport]
      rfl
    rw [hexit]
    exact ⟨_, _, rfl⟩

theorem main_of_read (words : Wording) (platform : Platform) (spawn : Spawner)
    {args : List String} (h : SweepArguments.read args = .ok a) (w : World) :
    main words platform spawn args w =
      (run words platform spawn a w).write .out ((logger a w.environment).write words) := by
  rw [main, h]

/-- Without all prepared, the program ends on the fault, after nothing but log events. -/
theorem run_of_refused (words : Wording) (platform : Platform) (spawn : Spawner)
    (h : Refused a w fault) :
    ∃ before, Trace.IsLog before ∧
      run words platform spawn a w = failed words fault w [] before := by
  obtain ⟨trace, hprepare, hlog⟩ := prepare_of_refused h
  have hstart : Trace.IsLog (if a.verbose then [.event (.arguments a)] else []) := by
    split
    · exact Trace.isLog_cons _ Trace.isLog_nil
    · exact Trace.isLog_nil
  refine ⟨_, Trace.isLog_append hstart hlog, ?_⟩
  rw [run, hprepare]

/-- What a failed program puts on the error stream, while its log goes to the other one. -/
theorem err_failed (words : Wording) (calls : List Call) (log : Event → Bytes) {before : Trace}
    (h : Trace.IsLog before) :
    ((failed words fault w calls before).write .out log).err =
      lineBytes ("❌ " ++ fault.message words) := by
  have hbefore : Trace.on .err .out log before = [] := h.on_eq_nil (by decide)
  have hlast : Trace.on .err .out log [.event (.fault fault), .event (.advice fault),
      .err (lineBytes ("❌ " ++ fault.message words))] =
        lineBytes ("❌ " ++ fault.message words) := by
    simp [Trace.on, Signal.bytesOn, Signal.err, Writing.err, Writing.on]
  calc ((failed words fault w calls before).write .out log).err
      = Trace.on .err .out log before ++ Trace.on .err .out log _ := Trace.on_append before _ _ _ _
    _ = lineBytes ("❌ " ++ fault.message words) := by rw [hbefore, hlast, List.nil_append]

/-- Without all prepared, the program ends with 2, with no call made and the world as it was, and
its error stream holds the fault alone. With all prepared it sweeps, with the configuration that was
loaded, the root that was given, and the words of the command with single spaces between them. -/
theorem refused_or_swept (words : Wording) (platform : Platform) (spawn : Spawner)
    (args : List String) (w : World) (hargs : SweepArguments.read args = .ok a) :
    ((∃ fault, Refused a w fault) ↔ ¬ ∃ c, Prepared a w c) ∧
      (∀ fault, Refused a w fault →
        (main words platform spawn args w).status = 2 ∧
          (run words platform spawn a w).calls = [] ∧
          (main words platform spawn args w).world = w ∧
          (main words platform spawn args w).err = lineBytes ("❌ " ++ fault.message words)) ∧
      ∀ c, Prepared a w c →
        sweep platform a c = ⟨c, platform, a.root, " ".intercalate a.command, a.dryRun⟩ ∧
          (run words platform spawn a w).calls = ((sweep platform a c).run spawn.runner w).calls ∧
          (main words platform spawn args w).world =
            ((sweep platform a c).run spawn.runner w).world ∧
          ∃ before after, (run words platform spawn a w).trace =
            before ++ ((sweep platform a c).run spawn.runner w).trace ++ after := by
  have hmain := main_of_read words platform spawn hargs w
  refine ⟨exists_refused_iff, ?_, ?_⟩
  · intro fault hrefused
    obtain ⟨before, hlog, hrun⟩ := run_of_refused words platform spawn hrefused
    have hstatus : (failed words fault w [] before).status = 2 := by
      rw [Finished.status, failed, hrefused.isSetup.exitCode_eq]
      rfl
    rw [hmain, hrun]
    exact ⟨hstatus, rfl, rfl, err_failed words [] _ hlog⟩
  · intro c hprepared
    obtain ⟨before, after, hrun⟩ := run_of_prepared words platform spawn hprepared
    rw [hmain, hrun]
    exact ⟨rfl, rfl, rfl, before, after, rfl⟩

/-- A workspace with a configuration file that is no text. -/
def garbled : World where
  tree := ⟨[(["ws"], .directory), (["ws", "workspace-run.toml"], .file [0x66, 0xff])]⟩
  here := []
  environment := .empty

/-- A child that ends well and leaves a file behind. -/
def leaving : Spawner where
  start _ w := ⟨.ok 0, { w with tree := w.tree.put ["mark"] (.file []) }, []⟩
  onward := Call.clock_le

theorem garbled_refused :
    SweepArguments.read ["--root=ws", "--dry-run", "-v", "make", "all"] =
        .ok ⟨"ws", none, true, true, false, ["make", "all"]⟩ ∧
      Refused ⟨"ws", none, true, true, false, ["make", "all"]⟩ garbled
        (.config (.unreadable "ws/workspace-run.toml" .notText)) ∧
      (main .plain .linux leaving ["--root=ws", "--dry-run", "-v", "make", "all"] garbled).status =
        2 ∧
      (main .plain .linux leaving ["--root=ws", "--dry-run", "-v", "make", "all"] garbled).world =
        garbled ∧
      (main .plain .linux leaving ["--root=ws", "--dry-run", "-v", "make", "all"] garbled).err =
        lineBytes ("❌ Configuration error: cannot read ws/workspace-run.toml: " ++
          "stream did not contain valid UTF-8") := by
  have hargs : SweepArguments.read ["--root=ws", "--dry-run", "-v", "make", "all"] =
      .ok ⟨"ws", none, true, true, false, ["make", "all"]⟩ := by
    rfl
  have hrefused : Refused ⟨"ws", none, true, true, false, ["make", "all"]⟩ garbled
      (.config (.unreadable "ws/workspace-run.toml" .notText)) :=
    .loading rfl (by with_unfolding_all rfl)
  obtain ⟨-, hrefusal, -⟩ := refused_or_swept .plain .linux leaving _ garbled hargs
  obtain ⟨hstatus, -, hworld, herr⟩ := hrefusal _ hrefused
  exact ⟨hargs, hrefused, hstatus, hworld, herr⟩

end SweepProgram

end PackageSweep
