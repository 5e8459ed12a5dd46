import PackageSweep.Toml.Value

/-!
# Building tables

A key is a path of names. Walking a path makes the tables that are missing on the way; the last name
must be new. A table that exists may be walked through or added to only as its origin allows.
-/

namespace PackageSweep.Toml.Table

abbrev Path := List String

def set (key : String) (v : Value) : Entries → Entries
  | [] => []
  | (k, w) :: es => if k = key then (k, v) :: es else (k, w) :: set key v es

abbrev Edit := Origin → Entries → Option (Origin × Entries)

/-- Whether keys may walk on through an existing table: never into one between braces, and by
dotted keys not into one with a header of its own. -/
def Origin.admits (byDots : Bool) : Origin → Bool
  | .inline => false
  | .header => !byDots
  | .implied => true
  | .dotted => true

/-- Edits the table at the end of a path. An array of tables stands for its last one. -/
def walk (byDots : Bool) (edit : Edit) : Path → Edit
  | [], origin, entries => edit origin entries
  | key :: path, origin, entries =>
    match entries.lookup key with
    | none =>
      match walk byDots edit path (if byDots then .dotted else .implied) [] with
      | some (o, es) => some (origin, entries ++ [(key, .table o es)])
      | none => none
    | some (.table o es) =>
      if Origin.admits byDots o then
        match walk byDots edit path o es with
        | some (o, es) => some (origin, set key (.table o es) entries)
        | none => none
      else none
    | some (.tables items) =>
      match items.getLast? with
      | some (.table o es) =>
        match walk byDots edit path o es with
        | some (o, es) =>
          some (origin, set key (.tables (items.dropLast ++ [.table o es])) entries)
        | none => none
      | _ => none
    | some _ => none

/-- Adds a new key. A key reached by dots goes only into tables that dots made. -/
def add (byDots : Bool) (key : String) (v : Value) : Edit := fun origin entries =>
  if byDots = (origin == .dotted) ∧ (entries.lookup key).isNone then
    some (origin, entries ++ [(key, v)])
  else none

def insert (path : Path) (key : String) (v : Value) : Edit :=
  walk true (add (!path.isEmpty) key v) path

/-- Begins the table of a header. A table that only headers below it implied so far is taken up. -/
def opened (key : String) : Edit := fun origin entries =>
  match entries.lookup key with
  | none => some (origin, entries ++ [(key, .table .header [])])
  | some (.table .implied es) => some (origin, set key (.table .header es) entries)
  | some _ => none

def appended (key : String) : Edit := fun origin entries =>
  match entries.lookup key with
  | none => some (origin, entries ++ [(key, .tables [.table .header []])])
  | some (.tables items) => some (origin, set key (.tables (items ++ [.table .header []])) entries)
  | some _ => none

def ofPairs (pairs : List (Path × String × Value)) : Option Value :=
  let built := pairs.foldlM (fun (t : Origin × Entries) (path, key, v) =>
    insert path key v t.1 t.2) (Origin.inline, [])
  built.map fun t => .table .inline t.2

end PackageSweep.Toml.Table
