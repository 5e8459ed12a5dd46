/-!
# Sets of characters by their change points

A set of code points is written as the rising list of the places where membership changes. A code
point is inside when the number of places up to it is odd.
-/

namespace PackageSweep.Text

def inSpans (n : Nat) : List Nat → Bool
  | [] => false
  | a :: as => if n < a then false else !inSpans n as

@[simp] theorem inSpans_nil (n : Nat) : inSpans n [] = false := rfl

end PackageSweep.Text
