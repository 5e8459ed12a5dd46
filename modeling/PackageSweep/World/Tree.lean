import PackageSweep.System.Fault
import PackageSweep.Text.Utf8

/-!
# The file tree

A place is the list of names that leads to it from the root of the tree. A tree says what stands at
each place. Walking along names goes through directories only, and `..` leads to the parent.
-/

namespace PackageSweep

abbrev Place := List String

/-- What stands at a place. -/
inductive Entry where
  | file (contents : Bytes)
  | directory
  /-- A device that is always empty and takes anything. -/
  | device
  /-- A file that cannot be opened, and the fault that tells why. -/
  | sealed (fault : SystemFault)
  deriving DecidableEq

/-- Whether an entry is a file with contents of its own, whoever may read them. -/
def Entry.isRegular : Entry → Bool
  | .file _ => true
  | .sealed _ => true
  | _ => false

structure Tree where
  entries : List (Place × Entry)

namespace Tree

def empty : Tree := ⟨[]⟩

/-- What stands at a place. The root is always a directory. -/
def entryAt? (t : Tree) (p : Place) : Option Entry :=
  if p = [] then some .directory else t.entries.lookup p

def isDirectory (t : Tree) (p : Place) : Bool := t.entryAt? p == some .directory

def put (p : Place) (e : Entry) (t : Tree) : Tree :=
  ⟨t.entries.filter (·.1 != p) ++ [(p, e)]⟩

/-- Takes away what stands at a place and below it. -/
def prune (p : Place) (t : Tree) : Tree := ⟨t.entries.filter fun x => !p.isPrefixOf x.1⟩

/-- The names in a directory, in rising order. -/
def children (t : Tree) (p : Place) : List String :=
  (t.entries.filterMap fun x =>
    match x.1.getLast? with
    | some name => if x.1.dropLast = p then some name else none
    | none => none).mergeSort (fun a b => a ≤ b)

/-- The most bytes of one name, and the bound on those of a path. -/
def maxName : Nat := 255
def maxPath : Nat := 4096

/-- Walks along names to a place. The last name may be missing from its directory. -/
def walk (t : Tree) : Place → List String → Except SystemFault Place
  | p, [] => .ok p
  | p, n :: ns =>
    match t.entryAt? p with
    | none => .error .noEntry
    | some .directory =>
      if n = ".." then walk t p.dropLast ns
      else if maxName < n.utf8ByteSize then .error .nameTooLong
      else if ns = [] then .ok (p ++ [n])
      else
        match t.entryAt? (p ++ [n]) with
        | none => .error .noEntry
        | some _ => walk t (p ++ [n]) ns
    | some _ => .error .notDirectory

theorem entryAt?_nil (t : Tree) : t.entryAt? [] = some .directory := rfl

end Tree

end PackageSweep
