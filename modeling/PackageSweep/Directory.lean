import PackageSweep.Text.Pieces

/-!
# Directories of a workspace

A package directory is written as text, in many spellings. `normalForm` is the spelling used to
compare two directories. `resolve` is the path under the workspace root where commands run.
Comparing treats a backslash as a separator; resolving takes it as part of a name.
-/

namespace PackageSweep

namespace Path

/-- A name that a path steps over without moving. -/
def isIdle (name : List Char) : Bool := name == [] || name == ['.']

/-- The names that a path goes through, in order, with `..` among them. -/
def names (path : List Char) : List (List Char) :=
  (Text.pieces (· == '/') path).filter (!isIdle ·)

/-- A path that starts at the root of the file tree. -/
def isAbsolute (path : List Char) : Bool := path.head? == some '/'

/-- The path `path` as seen from `base`. An absolute path replaces the base, and the empty path
leaves a slash behind it. -/
def join (base path : List Char) : List Char :=
  if isAbsolute path then path
  else if base = [] ∨ base.getLast? = some '/' then base ++ path
  else base ++ '/' :: path

/-- The path without idle names and without repeated slashes. -/
def tidy (path : List Char) : List Char :=
  if isAbsolute path then '/' :: Text.joined '/' (names path) else Text.joined '/' (names path)

end Path

namespace Directory

def isSeparator (c : Char) : Bool := c == '/' || c == '\\'

/-- The names of a directory, as comparing sees them. -/
def parts (directory : List Char) : List (List Char) :=
  (Text.pieces isSeparator directory).filter (!Path.isIdle ·)

/-- The spelling by which two directories are compared. -/
def normalForm (directory : String) : String :=
  String.ofList (Text.joined '/' (parts directory.toList))

/-- The path of a directory below the workspace root. -/
def resolve (root directory : String) : String :=
  String.ofList (Path.join root.toList (Path.tidy directory.toList))

/-- The path of an entry of a directory. It unfolds on request only: there is nothing to gain from
evaluating a path of which parts are unknown. -/
@[irreducible] def entry (directory name : String) : String :=
  String.ofList (Path.join directory.toList name.toList)

end Directory

end PackageSweep
