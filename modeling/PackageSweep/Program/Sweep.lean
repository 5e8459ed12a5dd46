import PackageSweep.Config.Load
import PackageSweep.Config.Validation
import PackageSweep.Program.Basic
import PackageSweep.Sweep.Run

/-!
# The sweep program

The arguments are checked, the configuration is loaded and checked, and then the sweep runs. A fault
at any point is logged, named on the error stream, and decides the exit number.
-/

namespace PackageSweep.SweepProgram

def failed (words : Wording) (fault : Fault) (w : World) (calls : List Call) (before : Trace) :
    Finished where
  exit := fault.exitCode
  world := w
  calls := calls
  trace := before ++
    [.event (.fault fault), .event (.advice fault),
      .err (lineBytes ("❌ " ++ fault.message words))]

def overview (a : SweepArguments) (c : Config) : Trace :=
  [.out (lineBytes "📋 Configuration Summary:"),
    .out (lineBytes ("  Root: " ++ a.root)),
    .out (lineBytes ("  Packages: " ++ toString c.packages.length)),
    .out (lineBytes ("  Windows only: " ++ ", ".intercalate c.windowsOnlyDirectories)),
    .out (lineBytes ("  Manifest: " ++ c.manifestName ++ " (required by: " ++
      ", ".intercalate c.manifestPrefixes ++ ")")),
    .out (lineBytes "")]

def preview (r : Report) : Trace :=
  .out (lineBytes ("🔍 Dry run: would execute '" ++ r.command ++ "' in:")) ::
    r.planned.map fun directory => .out (lineBytes ("  " ++ directory))

def closing (a : SweepArguments) (r : Report) (total : Duration) : Trace :=
  if a.dryRun then preview r
  else [.event (.succeeded r.command r.executed.length r.skipped.length total)]

def sweep (platform : Platform) (a : SweepArguments) (c : Config) : Sweep where
  config := c
  platform := platform
  root := a.root
  command := a.commandLine
  dry := a.dryRun

/-- The configuration to use, once it and the arguments are checked. -/
def prepare (a : SweepArguments) (w : World) : Except Fault Config × Trace :=
  match a.validate with
  | .error fault => (.error fault, [])
  | .ok () =>
    match Config.load a.root a.config w with
    | (.error fault, trace) => (.error fault, trace)
    | (.ok c, trace) =>
      match c.validate with
      | .error fault => (.error fault, trace)
      | .ok () => (.ok c, trace)

def run (words : Wording) (platform : Platform) (spawn : Spawner) (a : SweepArguments)
    (w : World) : Finished :=
  let start : Trace := if a.verbose then [.event (.arguments a)] else []
  match prepare a w with
  | (.error fault, trace) => failed words fault w [] (start ++ trace)
  | (.ok c, trace) =>
    let before := start ++ trace ++ (if a.dryRun then overview a c else [])
    let ending := (sweep platform a c).run spawn.runner w
    match h : ending.result with
    | .error fault => failed words fault ending.world ending.calls (before ++ ending.trace)
    | .ok report =>
      let total := report.total?.get (Sweep.isSome_total?_of_run_ok h)
      ⟨0, ending.world, ending.calls, before ++ ending.trace ++ closing a report total⟩

/-- The log that arguments and environment ask for. A log in JSON is never verbose. -/
def logger (a : SweepArguments) (env : Environment) : Logger :=
  if a.jsonLogs then ⟨.inForce env false, .json⟩ else ⟨.inForce env a.verbose, .compact⟩

def main (words : Wording) (platform : Platform) (spawn : Spawner) (args : List String)
    (w : World) : Written :=
  match SweepArguments.read args with
  | .error .help => ⟨0, Utf8.ofString words.usage, [], w⟩
  | .error fault => ⟨fault.exitCode.toNat, [], Utf8.ofString words.usage, w⟩
  | .ok a => (run words platform spawn a w).write .out ((logger a w.environment).write words)

end PackageSweep.SweepProgram
