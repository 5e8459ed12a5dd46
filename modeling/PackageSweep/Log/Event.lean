import PackageSweep.Arguments.Programs
import PackageSweep.Sweep.Report
import PackageSweep.Version.Table

/-!
# Events

What a program has to say while it works. Every event has a level, a target that names the part of
the program it comes from, and a text.
-/

namespace PackageSweep

/-- How much an event matters. -/
inductive Level where
  | trace
  | debug
  | info
  | warn
  | error
  deriving DecidableEq

namespace Level

def rank : Level → Nat
  | .trace => 0
  | .debug => 1
  | .info => 2
  | .warn => 3
  | .error => 4

def text : Level → String
  | .trace => "TRACE"
  | .debug => "DEBUG"
  | .info => "INFO"
  | .warn => "WARN"
  | .error => "ERROR"

end Level

inductive Event where
  /-- A configuration file is about to be read. -/
  | loading (path : String)
  /-- There is no configuration file. -/
  | builtin
  /-- A sweep begins. -/
  | opening (command : String) (packages : Nat) (root os : String)
  /-- The sweep has come to a package. -/
  | executing (command directory : String)
  | skipped (directory : String) (reason : SkipReason)
  | planned (command directory : String)
  /-- A shell is about to be started. -/
  | spawning (directory : String)
  | failed (command directory : String) (code : Option Int)
  | finished (directory : String) (elapsed : Duration)
  | summary (s : Summary)
  /-- A package's version was read and raised. -/
  | version (row : Version.Row)
  /-- The arguments of the program. -/
  | arguments (a : SweepArguments)
  /-- The program ends on a fault. -/
  | fault (f : Fault)
  | advice (f : Fault)
  /-- The program ends well. -/
  | succeeded (command : String) (executed skipped : Nat) (elapsed : Duration)

namespace Event

def level : Event → Level
  | .loading _ => .debug
  | .builtin => .debug
  | .opening _ _ _ _ => .debug
  | .executing _ _ => .info
  | .skipped _ _ => .info
  | .planned _ _ => .info
  | .spawning _ => .debug
  | .failed _ _ _ => .error
  | .finished _ _ => .debug
  | .summary _ => .debug
  | .version _ => .debug
  | .arguments _ => .debug
  | .fault _ => .error
  | .advice _ => .error
  | .succeeded _ _ _ _ => .info

def target : Event → String
  | .loading _ => "workspace_run::config::toml_config"
  | .builtin => "workspace_run::config::toml_config"
  | .spawning _ => "workspace_run::adapters::shell"
  | .version _ => "workspace_run::core::version"
  | .arguments _ => "workspace_run"
  | .fault _ => "workspace_run"
  | .advice _ => "workspace_run"
  | .succeeded _ _ _ _ => "workspace_run"
  | _ => "workspace_run::core::runner"

def codeText : Option Int → String
  | some code => "Some(" ++ toString code ++ ")"
  | none => "None"

def text (w : Wording) : Event → String
  | .loading path => "Loading package list from " ++ path
  | .builtin => "No " ++ Config.fileName ++ " found, using built-in package list"
  | .opening command packages root os =>
    "Running '" ++ command ++ "' across " ++ toString packages ++ " packages (root: " ++ root ++
      ", os: " ++ os ++ ")"
  | .executing command directory => "Executing '" ++ command ++ "' in " ++ directory
  | .skipped directory reason => "⏭️ Skip " ++ directory ++ " because " ++ reason.text
  | .planned command directory => "🔍 Would run '" ++ command ++ "' in " ++ directory
  | .spawning directory => "🐚 spawning shell in " ++ directory
  | .failed command directory code =>
    "❌ '" ++ command ++ "' failed in " ++ directory ++ " (exit code: " ++ codeText code ++ ")"
  | .finished directory elapsed => "✅ " ++ directory ++ " finished in " ++ w.elapsed elapsed
  | .summary s => "📊 Run summary: " ++ s.text
  | .version row => row.directory ++ ": " ++ row.current ++ " -> " ++ row.next
  | .arguments a => "CLI config: " ++ a.text
  | .fault f => "❌ " ++ f.message w
  | .advice f => "💡 Suggestion: " ++ f.advice
  | .succeeded command done passed elapsed =>
    "✅ '" ++ command ++ "' succeeded in " ++ toString done ++ " packages (" ++
      toString passed ++ " skipped) in " ++ w.elapsed elapsed

end Event

end PackageSweep
