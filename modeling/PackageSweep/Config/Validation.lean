import PackageSweep.Config.Basic
import PackageSweep.Fault

/-!
# Validation

The rules that a configuration must meet before a sweep, checked in order. The first offence is
reported with the field and the value that it was found in.
-/

namespace PackageSweep

def pathOffence? (value : String) : Option Offence :=
  if value.isEmpty then some .emptyPath
  else if value.toList.contains '\x00' then some .nulInPath
  else none

/-- Whether a path stays below the root by its spelling. -/
def staysBelow (path : List Char) : Bool :=
  !Path.isAbsolute path && !(Path.names path).contains ['.', '.']

/-- Whether a text may be a directory below the root. -/
def directoryOffence? (value : String) : Option Offence :=
  match pathOffence? value with
  | some o => some o
  | none => if staysBelow value.toList then none else some .notRelative

def blankOffence? (value : String) : Option Offence :=
  if Text.allBlank value.toList then some .blank else none

/-- The first value that stands earlier in the list already. -/
def firstRepeated? : (seen values : List String) → Option String
  | _, [] => none
  | seen, v :: vs => if seen.contains v then some v else firstRepeated? (v :: seen) vs

def check (offence? : String → Option Offence) (field value : String) : Except Fault Unit :=
  match offence? value with
  | some o => .error (.invalidValue field value o)
  | none => .ok ()

/-- A path must not be empty and must not hold a NUL. -/
def validatePath : (field value : String) → Except Fault Unit := check pathOffence?

/-- A directory must be a path that neither begins at the root nor climbs. -/
def validateDirectory : (field value : String) → Except Fault Unit := check directoryOffence?

def validateNotBlank : (field value : String) → Except Fault Unit := check blankOffence?

def validateUnique (field : String) (values : List String) : Except Fault Unit :=
  match firstRepeated? [] values with
  | some v => .error (.invalidValue field v .repeated)
  | none => .ok ()

/-- Applies a check to each value of a list, from the first on. -/
def validateEach (validate : String → Except Fault Unit) : List String → Except Fault Unit
  | [] => .ok ()
  | v :: vs => do
    validate v
    validateEach validate vs

def Config.validate (c : Config) : Except Fault Unit := do
  if c.packages = [] then throw (.config .noPackages)
  validateEach (validateDirectory "workspace.packages") c.packages
  validateUnique "workspace.packages" (c.packages.map Directory.normalForm)
  validateEach (validateDirectory "workspace.windows_only") (c.windowsOnly.getD [])
  validateNotBlank "workspace.manifest" c.manifestName
  validatePath "workspace.manifest" c.manifestName
  validateEach (validateNotBlank "workspace.manifest_commands") c.manifestPrefixes

end PackageSweep
