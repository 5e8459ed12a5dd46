import PackageSweep.Config.Load
import PackageSweep.Config.Validation
import PackageSweep.Program.Basic
import PackageSweep.Version.Collect

/-!
# The version table program

The configuration is loaded and checked, the versions of its packages are collected, and the rows
are written as a table or as JSON. A fault leaves nothing on the output: it is explained on the
error stream with the step that it happened in. The log goes to the error stream too.
-/

namespace PackageSweep.VersionProgram

/-- The steps of the program. -/
inductive Step where
  | load
  | validate
  | collect
  deriving DecidableEq

def Step.text : Step → String
  | .load => "failed to load package list"
  | .validate => "invalid package list"
  | .collect => "failed to read package versions"

def indented (width : Nat) (text : String) : String :=
  let lines := (Text.pieces (· == '\n') text.toList).map String.ofList
  String.ofList ('\n' :: List.replicate width ' ') |>.intercalate lines

/-- What is written of a fault: the step, and below it the cause, or the numbered causes. -/
def explanation (words : Wording) (step : Step) (fault : Fault) : String :=
  let causes := match fault.source? words with
    | none => "    " ++ indented 4 (fault.message words) ++ "\n"
    | some source =>
      "    0: " ++ indented 7 (fault.message words) ++ "\n    1: " ++ indented 7 source ++ "\n"
  "Error: " ++ step.text ++ "\n\nCaused by:\n" ++ causes

/-- The rows of the configured packages, or the step that failed and its fault. -/
def rows (a : VersionArguments) (w : World) :
    Except (Step × Fault) (List Version.Row) × Trace :=
  match Config.load a.root a.config w with
  | (.error fault, trace) => (.error (.load, fault), trace)
  | (.ok c, trace) =>
    match c.validate with
    | .error fault => (.error (.validate, fault), trace)
    | .ok () =>
      let (result, more) := Version.collect w a.root c.packages
      (result.mapError (.collect, ·), trace ++ more)

def layout (a : VersionArguments) (rows : List Version.Row) : String :=
  if a.json then Version.jsonText rows ++ "\n" else Version.table rows

def run (words : Wording) (a : VersionArguments) (w : World) : Finished :=
  match rows a w with
  | (.ok rows, trace) => ⟨0, w, [], trace ++ [.out (Utf8.ofString (layout a rows))]⟩
  | (.error (step, fault), trace) =>
    ⟨1, w, [], trace ++ [.err (Utf8.ofString (explanation words step fault))]⟩

def logger (a : VersionArguments) (env : Environment) : Logger :=
  ⟨.inForce env a.verbose, .compact⟩

def main (words : Wording) (args : List String) (w : World) : Written :=
  match VersionArguments.read args with
  | .error .help => ⟨0, Utf8.ofString words.usage, [], w⟩
  | .error fault => ⟨fault.exitCode.toNat, [], Utf8.ofString words.usage, w⟩
  | .ok a => (run words a w).write .err ((logger a w.environment).write words)

end PackageSweep.VersionProgram
