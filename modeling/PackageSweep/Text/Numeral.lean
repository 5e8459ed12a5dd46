/-!
# Decimal numerals

Natural numbers written in ASCII decimal digits, and the numbers that such digits stand for.
-/

namespace PackageSweep.Text

def numeral (n : Nat) : List Char := Nat.toDigits 10 n

def digitValue (c : Char) : Nat := c.toNat - '0'.toNat

/-- The number that a row of digits stands for in the given base. -/
def digitsValue (base : Nat) (value : Char → Nat) (cs : List Char) : Nat :=
  cs.foldl (fun n c => base * n + value c) 0

/-- The number written by one or more decimal digits and nothing else. -/
def natural? (cs : List Char) : Option Nat :=
  if cs ≠ [] ∧ cs.all Char.isDigit then some (digitsValue 10 digitValue cs) else none

def wordRange : Nat := 18446744073709551616

def maxWord : Nat := 18446744073709551615

/-- A number of 64 bits, written by decimal digits after at most one plus sign. -/
def word? (cs : List Char) : Option Nat :=
  let digits := match cs with
    | '+' :: rest => rest
    | _ => cs
  (natural? digits).filter (· ≤ maxWord)

@[simp] theorem natural?_nil : natural? [] = none := rfl

end PackageSweep.Text
