import PackageSweep.Clock
import PackageSweep.Directory
import PackageSweep.Fault
import PackageSweep.World.Environment
import PackageSweep.World.Tree

/-!
# The world

What a program can see of the machine it runs on: the file tree, the directory it stands in, its
environment and the clock. Paths are texts; relative ones start from the directory the program
stands in.

A file can refuse to be read, for want of permission or on a fault of its disk. Otherwise the world
is a simple one: there are no links, every name in the tree is a text, every directory can be
searched, and the output streams take whatever is written.
-/

namespace PackageSweep

structure World where
  tree : Tree
  here : Place
  environment : Environment
  clock : Instant := .reading 0

namespace World

/-- The world without any files and variables. -/
def empty : World where
  tree := .empty
  here := []
  environment := .empty

/-- Whether a path asks for a directory by its ending. -/
def wantsDirectory (path : List Char) : Bool :=
  match (Text.pieces (· == '/') path).getLast? with
  | some last => Path.isIdle last
  | none => false

/-- The place that a path leads to. Its last name may be missing from its directory. -/
def locate (w : World) (path : String) : Except SystemFault Place :=
  if path.isEmpty then .error .noEntry
  else if Tree.maxPath ≤ path.utf8ByteSize then .error .nameTooLong
  else
    let start := if Path.isAbsolute path.toList then [] else w.here
    w.tree.walk start ((Path.names path.toList).map String.ofList)

def find (w : World) (path : String) : Except SystemFault (Place × Entry) :=
  match w.locate path with
  | .error e => .error e
  | .ok p =>
    match w.tree.entryAt? p with
    | none => .error .noEntry
    | some .directory => .ok (p, .directory)
    | some e => if wantsDirectory path.toList then .error .notDirectory else .ok (p, e)

def hasNul (text : String) : Bool := text.toList.contains '\x00'

/-- What a path leads to, for a program that only wants to know. -/
def entryAt? (w : World) (path : String) : Option Entry :=
  if hasNul path then none else (w.find path).toOption.map (·.2)

/-- Whether anything stands at the end of a path. -/
def exists? (w : World) (path : String) : Bool := (w.entryAt? path).isSome

/-- Whether a file with contents of its own stands at the end of a path. -/
def isFile (w : World) (path : String) : Bool :=
  (w.entryAt? path).any Entry.isRegular

def readBytes (w : World) (path : String) : Except IoCause Bytes :=
  if hasNul path then .error .nulInPath
  else
    match w.find path with
    | .error e => .error (.system e)
    | .ok (_, .file contents) => .ok contents
    | .ok (_, .device) => .ok []
    | .ok (_, .directory) => .error (.system .isDirectory)
    | .ok (_, .sealed fault) => .error (.system fault)

def readText (w : World) (path : String) : Except IoCause String :=
  match w.readBytes path with
  | .error e => .error e
  | .ok contents =>
    match Utf8.decode contents with
    | some cs => .ok (String.ofList cs)
    | none => .error .notText

end World

end PackageSweep
