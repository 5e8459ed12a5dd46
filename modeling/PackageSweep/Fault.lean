import PackageSweep.System.Fault
import PackageSweep.Wording

/-!
# Faults

Everything that can stop a sweep or a version table, by cause. A fault has a message, an exit code
for the program, advice for the reader, and sometimes an underlying source.
-/

namespace PackageSweep

/-- Why reading a file or starting a command did not work. -/
inductive IoCause where
  | system (fault : SystemFault)
  /-- A path to be opened holds a NUL. -/
  | nulInPath
  /-- A command or its directory holds a NUL. -/
  | nulInArgument
  /-- A file is not UTF-8. -/
  | notText
  deriving DecidableEq

def IoCause.text : IoCause → String
  | .system fault => fault.text
  | .nulInPath => "file name contained an unexpected NUL byte"
  | .nulInArgument => "nul byte found in provided data"
  | .notText => "stream did not contain valid UTF-8"

/-- Why a configuration cannot be used as a whole. -/
inductive ConfigCause where
  | unreadable (path : String) (cause : IoCause)
  | notToml
  | mistyped
  | missingField (name : String)
  | noPackages
  deriving DecidableEq

def ConfigCause.text (w : Wording) : ConfigCause → String
  | .unreadable path cause => "cannot read " ++ path ++ ": " ++ cause.text
  | .notToml => "TOML parsing error: " ++ w.notToml
  | .mistyped => "TOML parsing error: " ++ w.mistyped
  | .missingField name => "TOML parsing error: " ++ w.missingField name
  | .noPackages => "workspace.packages must list at least one directory"

/-- What is wrong with one value of a configuration. -/
inductive Offence where
  | emptyPath
  | nulInPath
  | notRelative
  | blank
  | repeated
  deriving DecidableEq

def Offence.text : Offence → String
  | .emptyPath => "Path cannot be empty"
  | .nulInPath => "Path contains null bytes"
  | .notRelative => "Path must be relative to the workspace root"
  | .blank => "Value cannot be empty or whitespace-only"
  | .repeated => "Duplicate entry"

/-- Why a manifest gives no answer. -/
inductive ManifestCause where
  | notToml
  /-- The package's version is neither a string nor taken from the workspace. -/
  | oddVersion
  deriving DecidableEq

def ManifestCause.text (w : Wording) : ManifestCause → String
  | .notToml => w.badManifest
  | .oddVersion => "package.version must be a string or `\x7b workspace = true \x7d`"

inductive Fault where
  | io (cause : IoCause)
  /-- A manifest is no JSON document. -/
  | json
  | spawn (directory command : String) (cause : IoCause)
  | commandFailed (directory command : String) (code : Option Int)
  | config (cause : ConfigCause)
  | invalidValue (field value : String) (offence : Offence)
  | versionNotFound (directory : String)
  | invalidVersion (version : String)
  | manifest (path : String) (cause : ManifestCause)
  deriving DecidableEq

namespace Fault

/-- What is beneath a fault, in words: its cause, or what is wrong with a value. -/
def detail (w : Wording) : Fault → String
  | .io cause => cause.text
  | .json => w.badJson
  | .spawn _ _ cause => cause.text
  | .config cause => cause.text w
  | .invalidValue _ _ offence => offence.text
  | .manifest _ cause => cause.text w
  | _ => ""

/-- What is said of a fault, around the words for what is beneath it. -/
def sentence (detail : String) : Fault → String
  | .io _ => "IO error: " ++ detail
  | .json => "Serialization error: " ++ detail
  | .spawn directory command _ =>
    "Failed to spawn '" ++ command ++ "' in " ++ directory ++ ": " ++ detail
  | .commandFailed directory command (some code) =>
    "Command '" ++ command ++ "' failed in " ++ directory ++ " with exit code " ++ toString code
  | .commandFailed directory command none =>
    "Command '" ++ command ++ "' failed in " ++ directory ++
      " with no exit code (terminated by signal)"
  | .config _ => "Configuration error: " ++ detail
  | .invalidValue field value _ =>
    "Invalid value for " ++ field ++ ": '" ++ value ++ "' (" ++ detail ++ ")"
  | .versionNotFound directory => "No version found for package " ++ directory
  | .invalidVersion version =>
    "Version '" ++ version ++ "' has no numeric patch component that can be incremented"
  | .manifest path _ => "Malformed manifest " ++ path ++ ": " ++ detail

def message (w : Wording) (f : Fault) : String := f.sentence (f.detail w)

/-- The number given to the system when the program ends on this fault. A failed command passes its
own code on, unless that would read as success. -/
def exitCode : Fault → Int
  | .commandFailed _ _ (some code) => if code = 0 then 1 else code
  | .config _ => 2
  | .invalidValue _ _ _ => 2
  | _ => 1

def advice : Fault → String
  | .commandFailed _ _ _ => "Fix the failing package and re-run; later packages were not processed"
  | .spawn _ _ _ => "Check that the package directory exists and the shell is available"
  | .config _ => "Check the package list in the configuration file"
  | .invalidValue _ _ _ => "Check the package list in the configuration file"
  | .versionNotFound _ =>
    "Make sure every package has a Cargo.toml, pyproject.toml or package.json with a version"
  | .invalidVersion _ =>
    "Make sure every package has a Cargo.toml, pyproject.toml or package.json with a version"
  | .manifest _ _ =>
    "Make sure every package has a Cargo.toml, pyproject.toml or package.json with a version"
  | .io _ => "Check file permissions and paths"
  | .json => "Check file permissions and paths"

/-- Whether the fault only passes on what is beneath it. -/
def passesOn : Fault → Bool
  | .io _ => true
  | .json => true
  | .spawn _ _ _ => true
  | _ => false

/-- The words for what is beneath a fault that only passes it on. -/
def source? (w : Wording) (f : Fault) : Option String :=
  if f.passesOn then some (f.detail w) else none

end Fault

end PackageSweep
