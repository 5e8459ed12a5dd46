import PackageSweep.Fault
import PackageSweep.Text.Blank
import PackageSweep.Text.Pieces

/-!
# The next patch version

The last component of a version counts patches. The next version has that component raised by one;
the components before it stay as they are.
-/

namespace PackageSweep

namespace Version

/-- A version's components but the last, each with the point after it, and the last component. -/
def splitLast : List Char → List Char × List Char
  | [] => ([], [])
  | c :: cs =>
    let (front, last) := splitLast cs
    if front = [] ∧ c ≠ '.' then ([], c :: last) else (c :: front, last)

/-- The next patch version, for a version that ends in a number of 64 bits that can be raised. -/
def next? (version : List Char) : Option (List Char) :=
  let (front, last) := splitLast (Text.trim version)
  match Text.word? last with
  | some n => if n < Text.maxWord then some (front ++ Text.numeral (n + 1)) else none
  | none => none

def next (version : String) : Except Fault String :=
  match next? version.toList with
  | some v => .ok (String.ofList v)
  | none => .error (.invalidVersion version)

end Version

end PackageSweep
