import PackageSweep.Config.Basic
import PackageSweep.Config.Reference
import PackageSweep.Fault
import PackageSweep.Toml.Reader

/-!
# Reading configurations

The `workspace` entry of a TOML document is a table with the fields of a configuration, or an array
with the fields in order. Unknown entries are ignored. A value of the wrong type is reported before
a field that is missing.
-/

namespace PackageSweep.Config

open Toml (Value)

def texts? (v : Value) : Option (List String) := v.items?.bind (·.mapM Value.text?)

/-- A field that may be missing, but must have the right type. -/
def optional {α : Type} (read : Value → Option α) : Option Value → Except ConfigCause (Option α)
  | none => .ok none
  | some v =>
    match read v with
    | some a => .ok (some a)
    | none => .error .mistyped

def ofFields (packages windowsOnly manifest manifestCommands : Option Value) :
    Except ConfigCause Config := do
  let packages ← optional texts? packages
  let windowsOnly ← optional texts? windowsOnly
  let manifest ← optional Value.text? manifest
  let manifestCommands ← optional texts? manifestCommands
  match packages with
  | some packages => .ok { packages, windowsOnly, manifest, manifestCommands }
  | none => .error (.missingField "packages")

/-- The configuration in a `workspace` entry. A date counts as a table without fields. -/
def ofWorkspace : Value → Except ConfigCause Config
  | .table _ es =>
    ofFields (es.lookup "packages") (es.lookup "windows_only") (es.lookup "manifest")
      (es.lookup "manifest_commands")
  | .array (packages :: windowsOnly :: manifest :: manifestCommands :: _) =>
    ofFields (some packages) (some windowsOnly) (some manifest) (some manifestCommands)
  | .moment _ => ofFields none none none none
  | _ => .error .mistyped

def ofDocument (text : String) : Except ConfigCause Config :=
  match Toml.parse? text.toList with
  | none => .error .notToml
  | some es =>
    match es.lookup "workspace" with
    | some v => ofWorkspace v
    | none => .error (.missingField "workspace")

/-- The configuration in a text, once references to the environment are replaced. -/
def ofText (env : Environment) (text : String) : Except Fault Config :=
  (ofDocument (expand env text)).mapError .config

end PackageSweep.Config
