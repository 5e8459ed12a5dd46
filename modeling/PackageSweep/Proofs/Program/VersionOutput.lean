import PackageSweep.Program.Versions
import PackageSweep.Proofs.Config.Expansion
import PackageSweep.Proofs.Program.Streams
import PackageSweep.Proofs.Result
import PackageSweep.Proofs.Version.Rows

/-!
# The output of the version table program

The output holds the rows of all packages, or nothing at all. The log goes to the error stream, so
what is asked of it changes neither the output nor the exit status. The variable that sets the log
up is still one of the environment, and a configuration may refer to it: then its value is part of
the configuration.
-/

namespace PackageSweep.VersionProgram

/-- The configuration that the arguments ask for is loaded and passes its checks, and these are the
rows of its packages. -/
structure Collected (a : VersionArguments) (w : World) (c : Config) (rs : List Version.Row) :
    Prop where
  loaded : (Config.load a.root a.config w).1 = .ok c
  validated : c.validate = .ok ()
  collected : (Version.collect w a.root c.packages).1 = .ok rs

variable {a : VersionArguments} {w : World} {c : Config} {rs : List Version.Row}

theorem rows_of_collected (h : Collected a w c rs) : (rows a w).1 = .ok rs := by
  rw [rows, Config.load_eq_of_fst h.loaded]
  simp only [h.validated]
  exact Result.mapError_eq_ok_iff.mpr h.collected

theorem exists_collected_of_rows (h : (rows a w).1 = .ok rs) : ∃ c, Collected a w c rs := by
  cases hloaded : (Config.load a.root a.config w).1 with
  | error fault =>
      rw [rows, Config.load_eq_of_fst hloaded] at h
      simp at h
  | ok c =>
      rw [rows, Config.load_eq_of_fst hloaded] at h
      cases hvalidated : c.validate with
      | error fault => simp [hvalidated] at h
      | ok _ =>
          simp only [hvalidated] at h
          exact ⟨c, hloaded, hvalidated, Result.mapError_eq_ok_iff.mp h⟩

theorem isLog_collect (w : World) (root : String) (ds : List String) :
    Trace.IsLog (Version.collect w root ds).2 := by
  induction ds with
  | nil => exact Trace.isLog_nil
  | cons d ds ih =>
      rw [Version.collect]
      split
      · exact Trace.isLog_nil
      · exact Trace.isLog_cons _ ih

theorem isLog_rows (a : VersionArguments) (w : World) : Trace.IsLog (rows a w).2 := by
  have hload := Config.isLog_load a.root a.config w
  rw [rows]
  split
  · rename_i hresult
    rwa [hresult] at hload
  · rename_i c trace hresult
    rw [hresult] at hload
    split
    · exact hload
    · exact Trace.isLog_append hload (isLog_collect w a.root c.packages)

/-- The exit status and the output that belong to rows, or to the lack of them. -/
def outcome (a : VersionArguments) : Except (Step × Fault) (List Version.Row) → Nat × Bytes
  | .ok rs => (0, Utf8.ofString (layout a rs))
  | .error _ => (1, [])

/-- The log is not seen on the output, so the rows alone decide. -/
theorem outcome_run (words : Wording) (a : VersionArguments) (w : World) (log : Event → Bytes) :
    (((run words a w).write .err log).status, ((run words a w).write .err log).out) =
      outcome a (rows a w).1 := by
  have hlog : Trace.on .out .err log (rows a w).2 = [] := (isLog_rows a w).on_eq_nil (by decide)
  rw [run]
  cases hrows : rows a w with
  | mk result trace =>
      rw [hrows] at hlog
      cases result with
      | error failure =>
          simp only [Finished.write, Trace.on_append, hlog, List.nil_append]
          rfl
      | ok rs =>
          simp only [Finished.write, Trace.on_append, hlog, List.nil_append]
          simp [outcome, Finished.status, Trace.on, Signal.bytesOn, Signal.out, Writing.on,
            Writing.out]

theorem outcome_main (words : Wording) {args : List String}
    (h : VersionArguments.read args = .ok a) (w : World) :
    ((main words args w).status, (main words args w).out) = outcome a (rows a w).1 := by
  rw [main, h]
  exact outcome_run words a w _

/-- The arguments and the environment matter to the rows only by what they do to the configuration.
-/
theorem rows_congr {a' : VersionArguments} {env : Environment} (hroot : a'.root = a.root)
    (hconfig : a'.config = a.config)
    (h : ∀ path text, Config.Source.choose a.root a.config w = .file path →
      w.readText path = .ok text → Config.expand env text = Config.expand w.environment text) :
    rows a' { w with environment := env } = rows a w := by
  rw [rows, rows, hroot, hconfig, Config.load_congr h]
  simp only [Version.collect_environment]

/-- The program ends with 0 and writes the rows of all packages of the configuration, in their
order, or ends with 1 and writes nothing. Its verbosity does not matter to this, and the variable
that sets the log up only where it matters to the text of the configuration file, which it does not
unless the text refers to it. -/
theorem all_or_nothing (words : Wording) (args : List String) (w : World)
    (hargs : VersionArguments.read args = .ok a) :
    (∀ c rs, Collected a w c rs →
      (main words args w).status = 0 ∧
        (main words args w).out =
          Utf8.ofString (if a.json then Version.jsonText rs ++ "\n" else Version.table rs) ∧
        c.packages.map (Version.row w a.root) = rs.map .ok ∧
        rs.map Version.Row.directory = c.packages ∧
        Version.readRows? (Version.jsonText rs ++ "\n") = some rs) ∧
      ((¬ ∃ c rs, Collected a w c rs) →
        (main words args w).status = 1 ∧ (main words args w).out = []) ∧
      (∀ args' a' env, VersionArguments.read args' = .ok a' →
        a' = { a with verbose := a'.verbose } →
        (∀ path text, Config.Source.choose a.root a.config w = .file path →
          w.readText path = .ok text →
          Config.expand env text = Config.expand w.environment text) →
        (main words args' { w with environment := env }).status = (main words args w).status ∧
          (main words args' { w with environment := env }).out = (main words args w).out) ∧
      ∀ env text, env.unset Filter.variableName = w.environment.unset Filter.variableName →
        ¬ Config.Refers Filter.variableName text.toList →
        Config.expand env text = Config.expand w.environment text := by
  have hmain := outcome_main words hargs w
  refine ⟨?_, ?_, ?_, ?_⟩
  · intro c rs hcollected
    rw [rows_of_collected hcollected] at hmain
    obtain ⟨hstatus, hout⟩ := Prod.mk.inj hmain
    exact ⟨hstatus, hout, Version.collect_eq_ok_iff.mp hcollected.collected,
      Version.map_directory_of_collect hcollected.collected, Version.readRows?_jsonText rs⟩
  · intro hnot
    cases hrows : (rows a w).1 with
    | ok rs =>
        obtain ⟨c, hcollected⟩ := exists_collected_of_rows hrows
        exact absurd ⟨c, rs, hcollected⟩ hnot
    | error failure =>
        rw [hrows] at hmain
        exact Prod.mk.inj hmain
  · intro args' a' env hargs' hverbose hexpand
    have hmain' := outcome_main words hargs' { w with environment := env }
    have hroot : a'.root = a.root := by rw [hverbose]
    have hconfig : a'.config = a.config := by rw [hverbose]
    have houtcome : outcome a' = outcome a := by rw [hverbose]; rfl
    rw [rows_congr hroot hconfig hexpand, houtcome, ← hmain] at hmain'
    exact Prod.mk.inj hmain'
  · intro env text henv hrefers
    exact Config.expand_congr (Config.agreeOn_of_not_refers (by decide) henv hrefers)

/-- A workspace whose list of packages asks for a variable, and two packages, one of which has a
version that cannot stand in JSON as it is. -/
def quoted : World where
  tree := ⟨[(["ws"], .directory),
    (["ws", "workspace-run.toml"],
      .file (Utf8.ofString "[workspace]\npackages = [\"$\x7bNAME\x7d\", \"b\"]\n")),
    (["ws", "a"], .directory),
    (["ws", "a", "package.json"], .file (Utf8.ofString "\x7b\"version\": \"\\\"\\t.9\"\x7d")),
    (["ws", "b"], .directory),
    (["ws", "b", "package.json"], .file (Utf8.ofString "\x7b\"version\": \"0.1\"\x7d"))]⟩
  here := []
  environment := ⟨[("NAME", Utf8.ofString "a")]⟩

def quotedRows : List Version.Row := [⟨"a", "\"\t.9", "\"\t.10"⟩, ⟨"b", "0.1", "0.2"⟩]

theorem quoted_all_or_nothing :
    VersionArguments.read ["--json", "-v", "--root", "ws"] = .ok ⟨"ws", none, true, true⟩ ∧
      Collected ⟨"ws", none, true, true⟩ quoted ⟨["a", "b"], none, none, none⟩ quotedRows ∧
      (main .plain ["--json", "-v", "--root", "ws"] quoted).status = 0 ∧
      (main .plain ["--json", "-v", "--root", "ws"] quoted).out =
        Utf8.ofString (Version.jsonText quotedRows ++ "\n") ∧
      Version.readRows? (Version.jsonText quotedRows ++ "\n") = some quotedRows ∧
      (main .plain ["--root", "ws", "--json"]
        { quoted with
          environment :=
            ⟨quoted.environment.pairs ++ [("RUST_LOG", Utf8.ofString "trace")]⟩ }).out =
        (main .plain ["--json", "-v", "--root", "ws"] quoted).out := by
  have hargs : VersionArguments.read ["--json", "-v", "--root", "ws"] =
      .ok ⟨"ws", none, true, true⟩ := by
    rfl
  have hcollected : Collected ⟨"ws", none, true, true⟩ quoted ⟨["a", "b"], none, none, none⟩
      quotedRows :=
    ⟨by decide +kernel, by decide +kernel, by decide +kernel⟩
  have hquiet : VersionArguments.read ["--root", "ws", "--json"] =
      .ok ⟨"ws", none, true, false⟩ := by
    rfl
  obtain ⟨hrows, -, hlog, hexpand⟩ := all_or_nothing .plain _ quoted hargs
  obtain ⟨hstatus, hout, -, -, hread⟩ := hrows _ _ hcollected
  refine ⟨hargs, hcollected, hstatus, hout, hread, (hlog _ _ _ hquiet rfl ?_).2⟩
  intro path text hpath htext
  have hchosen : Config.Source.choose "ws" none quoted = .file "ws/workspace-run.toml" := by
    decide +kernel
  have hcontents : quoted.readText "ws/workspace-run.toml" =
      .ok "[workspace]\npackages = [\"$\x7bNAME\x7d\", \"b\"]\n" := by
    decide +kernel
  obtain rfl := Config.Source.file.inj (hpath.symm.trans hchosen)
  obtain rfl := Except.ok.inj (htext.symm.trans hcontents)
  apply hexpand
  · rfl
  · intro hrefers
    have hinfix := Config.infix_of_refers hrefers
    revert hinfix
    decide +kernel

/-- A workspace whose list of packages asks for the variable that sets the log up, and a package for
one value of it. -/
def naming : World where
  tree := ⟨[(["workspace-run.toml"],
      .file (Utf8.ofString "[workspace]\npackages = [\"$\x7bRUST_LOG\x7d\"]\n")),
    (["off"], .directory),
    (["off", "package.json"], .file (Utf8.ofString "\x7b\"version\": \"1.9\"\x7d"))]⟩
  here := []
  environment := ⟨[("RUST_LOG", Utf8.ofString "off")]⟩

/-- The variable that sets the log up changes the exit status where the configuration file refers to
it. -/
theorem naming_exit_status :
    VersionArguments.read [] = .ok ⟨".", none, false, false⟩ ∧
      (main .plain [] naming).status = 0 ∧
      (main .plain []
        { naming with environment := ⟨[("RUST_LOG", Utf8.ofString "info")]⟩ }).status = 1 := by
  decide +kernel

end PackageSweep.VersionProgram
