import PackageSweep.World.Tree

/-!
# Differences between file trees

What has to be done to a file tree to make it another one: removals from the inside out, then
directories from the outside in, then files.
-/

namespace PackageSweep

inductive Change where
  | remove (p : Place)
  | makeDirectory (p : Place)
  | write (p : Place) (contents : Bytes)
  deriving DecidableEq

namespace Tree

/-- Whether two entries can take each other's place without a removal. -/
def alike : Entry → Entry → Bool
  | .directory, .directory => true
  | .file _, .file _ => true
  | .device, .device => true
  | .sealed _, .sealed _ => true
  | _, _ => false

/-- Whether a tree has nothing at a place that can take the place of an entry. -/
def lacks (t : Tree) (x : Place × Entry) : Bool := !(t.entryAt? x.1).any (alike x.2)

def changes (old new : Tree) : List Change :=
  let inward (x y : Place × Entry) : Bool := x.1.length ≤ y.1.length
  let gone := (old.entries.filter new.lacks).mergeSort inward
  let made := new.entries.mergeSort inward
  gone.reverse.map (fun x => .remove x.1) ++
    made.filterMap (fun x =>
      if x.2 = .directory ∧ old.lacks x then some (.makeDirectory x.1) else none) ++
    made.filterMap (fun x =>
      match x.2 with
      | .file contents =>
        if old.entryAt? x.1 = some x.2 then none else some (.write x.1 contents)
      | _ => none)

end Tree

end PackageSweep
