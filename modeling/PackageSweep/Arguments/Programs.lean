import PackageSweep.Arguments.Grammar
import PackageSweep.Config.Validation
import PackageSweep.Text.Quoted

/-!
# The arguments of the two programs

A sweep takes a root, a configuration file, three switches and the command. The version table takes
a root, a configuration file and two switches.
-/

namespace PackageSweep

open Arguments (Grammar ArgumentFault Options)

def defaultRoot : String := "."

structure SweepArguments where
  root : String := defaultRoot
  config : Option String := none
  dryRun : Bool := false
  verbose : Bool := false
  jsonLogs : Bool := false
  command : List String
  deriving DecidableEq

namespace SweepArguments

def grammar : Grammar := ⟨[.help, .root, .config, .dryRun, .verbose, .jsonLogs], true⟩

def ofOptions (o : Options) (command : List String) : SweepArguments where
  root := o.root.getD defaultRoot
  config := o.config
  dryRun := o.dryRun
  verbose := o.verbose
  jsonLogs := o.jsonLogs
  command := command

def read (args : List String) : Except ArgumentFault SweepArguments :=
  (grammar.read args).map fun (o, command) => ofOptions o command

def commandLine (a : SweepArguments) : String := " ".intercalate a.command

/-- The command must hold more than blanks, and the root must be a path. -/
def validate (a : SweepArguments) : Except Fault Unit := do
  validateNotBlank "command" a.commandLine
  validatePath "root" a.root

def shownPath (path : String) : String := String.ofList (Text.quoted .both path.toList)

def shownText (text : String) : String := String.ofList (Text.quoted .doubleOnly text.toList)

def text (a : SweepArguments) : String :=
  let config := match a.config with
    | some path => "Some(" ++ shownPath path ++ ")"
    | none => "None"
  "CliConfig \x7b root: " ++ shownPath a.root ++ ", config: " ++ config ++
    ", dry_run: " ++ toString a.dryRun ++ ", verbose: " ++ toString a.verbose ++
    ", json_logs: " ++ toString a.jsonLogs ++
    ", command: [" ++ ", ".intercalate (a.command.map shownText) ++ "] \x7d"

end SweepArguments

structure VersionArguments where
  root : String := defaultRoot
  config : Option String := none
  json : Bool := false
  verbose : Bool := false
  deriving DecidableEq

namespace VersionArguments

def grammar : Grammar := ⟨[.help, .root, .config, .json, .verbose], false⟩

def ofOptions (o : Options) : VersionArguments where
  root := o.root.getD defaultRoot
  config := o.config
  json := o.json
  verbose := o.verbose

def read (args : List String) : Except ArgumentFault VersionArguments :=
  (grammar.read args).map fun (o, _) => ofOptions o

end VersionArguments

end PackageSweep
