import PackageSweep.Json.Writer

/-!
# Version tables

A row names a package with its current and its next version. The table has three columns, padded on
the right to their width in characters.
-/

namespace PackageSweep.Version

structure Row where
  directory : String
  current : String
  next : String
  deriving DecidableEq

/-- A text padded on the right with spaces to a width in characters. -/
def padded (width : Nat) (cs : List Char) : List Char :=
  cs ++ List.replicate (width - cs.length) ' '

def nameWidth : Nat := 25
def versionWidth : Nat := 7

def Row.line (r : Row) : List Char :=
  ['|', ' '] ++ padded nameWidth r.directory.toList ++ [' ', '|', ' '] ++
    padded versionWidth r.current.toList ++ [' ', '|', ' '] ++
    padded versionWidth r.next.toList ++ [' ', '|', '\n']

def heading : Row := ⟨"Name", "Version", "Next"⟩
def rule : Row := ⟨"-", "-", "-"⟩

def table (rows : List Row) : String :=
  String.ofList ((heading :: rule :: rows).flatMap Row.line)

def Row.json (r : Row) : Json.Value :=
  .object [("directory", .text r.directory), ("current", .text r.current), ("next", .text r.next)]

/-- Rows as one JSON array over several lines. -/
def jsonText (rows : List Row) : String :=
  String.ofList ((Json.Value.array (rows.map Row.json)).pretty 0)

end PackageSweep.Version
