import PackageSweep.World.Basic

/-!
# Changing the file tree

Writing, making and removing, with the faults that the system reports for each.
-/

namespace PackageSweep.World

def withTree (w : World) (t : Tree) : World := { w with tree := t }

/-- The place of a file to be written, and its contents so far. -/
def writable (w : World) (path : String) : Except SystemFault (Place × Entry) :=
  match w.locate path with
  | .error e => .error e
  | .ok p =>
    match w.tree.entryAt? p with
    | some .directory => .error .isDirectory
    | some (.sealed fault) => .error fault
    | some e => if wantsDirectory path.toList then .error .notDirectory else .ok (p, e)
    | none =>
      if wantsDirectory path.toList then .error .isDirectory
      else if w.tree.isDirectory p.dropLast then .ok (p, .file [])
      else .error .noEntry

def writeFile (path : String) (contents : Bytes) (w : World) : Except SystemFault World :=
  match w.writable path with
  | .error e => .error e
  | .ok (_, .device) => .ok w
  | .ok (p, _) => .ok (w.withTree (w.tree.put p (.file contents)))

def appendFile (path : String) (contents : Bytes) (w : World) : Except SystemFault World :=
  match w.writable path with
  | .error e => .error e
  | .ok (p, .file old) => .ok (w.withTree (w.tree.put p (.file (old ++ contents))))
  | .ok _ => .ok w

/-- Makes one directory, whose parent must exist. -/
def makeDirectory (path : String) (w : World) : Except SystemFault World :=
  match w.locate path with
  | .error e => .error e
  | .ok p =>
    match w.tree.entryAt? p with
    | some _ => .error .alreadyThere
    | none =>
      if w.tree.isDirectory p.dropLast then .ok (w.withTree (w.tree.put p .directory))
      else .error .noEntry

/-- The paths of a directory and the directories above it, outermost first. -/
def ancestors (path : String) : List String :=
  let start := if Path.isAbsolute path.toList then ['/'] else []
  let names := Path.names path.toList
  (List.range names.length).map fun k =>
    String.ofList (start ++ Text.joined '/' (names.take (k + 1)))

/-- Makes a directory and all that are missing above it. Directories made before a fault stay. -/
def makeDirectories (path : String) (w : World) : World × Option SystemFault :=
  (ancestors path).foldl (fun (w, fault) a =>
    match fault with
    | some _ => (w, fault)
    | none =>
      match w.makeDirectory a with
      | .ok w => (w, none)
      | .error e =>
        match w.find a with
        | .ok (_, .directory) => (w, none)
        | _ => (w, some e)) (w, none)

def removeFile (path : String) (w : World) : Except SystemFault World :=
  match w.find path with
  | .error e => .error e
  | .ok (_, .directory) => .error .isDirectory
  | .ok (p, _) => .ok (w.withTree (w.tree.prune p))

def removeDirectory (path : String) (w : World) : Except SystemFault World :=
  match w.find path with
  | .error e => .error e
  | .ok (p, .directory) =>
    if p = [] then .error .permissionDenied
    else if w.tree.children p = [] then .ok (w.withTree (w.tree.prune p))
    else .error .notEmpty
  | .ok _ => .error .notDirectory

/-- Removes a file, or a directory with all below it. -/
def removeAll (path : String) (w : World) : Except SystemFault World :=
  match w.find path with
  | .error e => .error e
  | .ok (p, _) =>
    if p = [] then .error .permissionDenied else .ok (w.withTree (w.tree.prune p))

end PackageSweep.World
