import PackageSweep.Json.Reader
import PackageSweep.Toml.Reader
import PackageSweep.World.Basic

/-!
# Finding a package's version

A package may keep its version in one of three manifests, which are looked at in a fixed order. A
manifest that is no file, or says nothing about the version, is passed over; the first one that has
a version or a fault decides.
-/

namespace PackageSweep.Version

open Toml (Value)

def fitsManifest (n : Int) : Bool := -9223372036854775808 ≤ n && n ≤ 9223372036854775807

def tomlManifest (w : World) (path : String) : Except Fault Value :=
  match w.readText path with
  | .error e => .error (.io e)
  | .ok text =>
    match Toml.parse? text.toList with
    | none => .error (.manifest path .notToml)
    | some es =>
      if (Value.table .header es).allIntegers fitsManifest then .ok (.table .header es)
      else .error (.manifest path .notToml)

def field? (keys : List String) (v : Value) : Option Value :=
  keys.foldlM (fun v k => v.field? k) v

/-- The manifests by name, and the one of the workspace. -/
def cargoName : String := "Cargo.toml"
def pyprojectName : String := "pyproject.toml"
def packageName : String := "package.json"

/-- The version that the workspace gives to packages that ask for it. -/
def workspaceVersion (w : World) (root : String) : Except Fault (Option String) :=
  let path := Directory.entry root cargoName
  if w.isFile path then
    (tomlManifest w path).map fun v =>
      (field? ["workspace", "package", "version"] v).bind Value.text?
  else .ok none

/-- Whether a version is to be taken from the workspace. -/
def isInherited (v : Value) : Bool := (v.field? "workspace").bind Value.boolean? == some true

def cargoVersion (w : World) (root path : String) : Except Fault (Option String) :=
  match tomlManifest w path with
  | .error e => .error e
  | .ok manifest =>
    match field? ["package", "version"] manifest with
    | none => .ok none
    | some (.text s) => .ok (some s)
    | some v =>
      if isInherited v then workspaceVersion w root
      else .error (.manifest path .oddVersion)

/-- The version in a `pyproject.toml`. A project's own version counts even if it is no string. -/
def pyprojectVersion (w : World) (path : String) : Except Fault (Option String) :=
  (tomlManifest w path).map fun manifest =>
    ((field? ["project", "version"] manifest).or
      (field? ["tool", "poetry", "version"] manifest)).bind Value.text?

def packageVersion (w : World) (path : String) : Except Fault (Option String) :=
  match w.readText path with
  | .error e => .error (.io e)
  | .ok text =>
    match Json.parse? text.toList with
    | none => .error .json
    | some v => .ok ((v.field? "version").bind Json.Value.text?)

/-- A place that may hold the version of a package. -/
inductive Source where
  | cargo
  | pyproject
  | package
  deriving DecidableEq

namespace Source

/-- The sources in the order in which they are looked at. -/
def all : List Source := [.cargo, .pyproject, .package]

def fileName : Source → String
  | .cargo => cargoName
  | .pyproject => pyprojectName
  | .package => packageName

/-- What a source says: a version, nothing, or a fault. A source that is no file says nothing. -/
def ask (w : World) (root directory : String) (s : Source) : Except Fault (Option String) :=
  let path := Directory.entry (Directory.resolve root directory) s.fileName
  if w.isFile path then
    match s with
    | .cargo => cargoVersion w root path
    | .pyproject => pyprojectVersion w path
    | .package => packageVersion w path
  else .ok none

end Source

/-- The first version or fault among the sources. -/
def firstAnswer (ask : Source → Except Fault (Option String)) :
    List Source → Except Fault (Option String)
  | [] => .ok none
  | s :: ss =>
    match ask s with
    | .ok none => firstAnswer ask ss
    | answer => answer

def read (w : World) (root directory : String) : Except Fault String :=
  match firstAnswer (Source.ask w root directory) Source.all with
  | .ok (some v) => .ok v
  | .ok none => .error (.versionNotFound directory)
  | .error e => .error e

end PackageSweep.Version
