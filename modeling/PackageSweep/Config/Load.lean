import PackageSweep.Config.Decode
import PackageSweep.Log.Signal

/-!
# Finding the configuration

An explicit path decides. Without one, the configuration file in the workspace root decides if it is
a file, and otherwise the built-in configuration is used. A file that was chosen and cannot be used
is a fault, never a reason to look further.
-/

namespace PackageSweep.Config

/-- Where a configuration comes from. -/
inductive Source where
  | file (path : String)
  | builtin
  deriving DecidableEq

namespace Source

def choose (root : String) (explicit : Option String) (w : World) : Source :=
  match explicit with
  | some path => .file path
  | none =>
    let path := Directory.entry root fileName
    if w.isFile path then .file path else .builtin

/-- What is said of the source that is chosen. -/
def event : Source → Event
  | .file path => .loading path
  | .builtin => .builtin

end Source

def ofFile (w : World) (path : String) : Except Fault Config :=
  match w.readText path with
  | .error cause => .error (.config (.unreadable path cause))
  | .ok text => ofText w.environment text

def ofSource (w : World) : Source → Except Fault Config
  | .file path => ofFile w path
  | .builtin => .ok builtin

/-- The configuration for a root and perhaps an explicit path. -/
def load (root : String) (explicit : Option String) (w : World) : Except Fault Config × Trace :=
  let source := Source.choose root explicit w
  (ofSource w source, [.event source.event])

end PackageSweep.Config
