import PackageSweep.Directory
import PackageSweep.Text.Blank

/-!
# Configurations

A configuration lists the packages of a workspace in the order in which a sweep visits them, and
says which of them build on Windows only and which commands need a manifest. What it leaves out has
a default.
-/

namespace PackageSweep

/-- A configuration as written. -/
structure Config where
  packages : List String
  windowsOnly : Option (List String) := none
  manifest : Option String := none
  manifestCommands : Option (List String) := none
  deriving DecidableEq

namespace Config

/-- The packages swept when there is no configuration file. -/
def defaultPackages : List String :=
  ["core", "bin/oay", "bindings/java", "bindings/python", "bindings/dotnet",
    "integrations/cloudfilter", "integrations/unftp-sbe", "integrations/virtiofs"]

def defaultWindowsOnly : List String := ["integrations/cloudfilter"]
def defaultManifest : String := "Cargo.toml"
def defaultManifestCommands : List String := ["cargo"]

/-- The configuration used when there is no configuration file. -/
def builtin : Config where
  packages := defaultPackages

/-- The name of the configuration file in the workspace root. -/
def fileName : String := "workspace-run.toml"

/-- The directories that build on Windows only, each in its normal form. -/
def windowsOnlyDirectories (c : Config) : List String :=
  match c.windowsOnly with
  | some directories => directories.map Directory.normalForm
  | none => defaultWindowsOnly

/-- Whether a directory, however it is spelled, builds on Windows only. -/
def isWindowsOnly (c : Config) (directory : String) : Bool :=
  c.windowsOnlyDirectories.contains (Directory.normalForm directory)

/-- The manifest that manifest commands need. -/
def manifestName (c : Config) : String := c.manifest.getD defaultManifest

/-- The beginnings of the commands that need a manifest. -/
def manifestPrefixes (c : Config) : List String :=
  c.manifestCommands.getD defaultManifestCommands

/-- Whether a command needs a manifest. Blanks before the command do not matter. -/
def isManifestCommand (c : Config) (command : String) : Bool :=
  c.manifestPrefixes.any fun p => p.toList.isPrefixOf (Text.trimStart command.toList)

end Config

end PackageSweep
