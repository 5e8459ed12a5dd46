import PackageSweep.Text.Numeral

/-!
# JSON numbers

A number is an optional minus sign, an integer part without leading zeros, an optional fraction and
an optional exponent. It must not exceed what a binary floating-point number of 64 bits can hold:
the digits are gathered in a word of 64 bits, later digits only counting for the exponent, and the
product with the power of ten is rounded to 53 bits.
-/

namespace PackageSweep.Json.Number

/-- The natural number rounded to 53 significant bits, halves going to the even neighbour. -/
def round53 (n : Nat) : Nat :=
  let extra := Nat.log2 n + 1 - 53
  let unit := Nat.pow 2 extra
  let down := n / unit
  let rest := n % unit
  if 2 * rest > unit ∨ (2 * rest = unit ∧ down % 2 = 1 ∧ extra > 0) then (down + 1) * unit
  else down * unit

/-- Digits gathered so far: their value, and the power of ten that it is to be scaled by. -/
structure Gathered where
  value : Nat
  scale : Int

/-- One more digit of the integer part. A digit that no longer fits scales the value instead. -/
def Gathered.integerDigit (g : Gathered) (full : Bool) (c : Char) : Gathered × Bool :=
  let next := g.value * 10 + Text.digitValue c
  if full || next > Text.maxWord then (⟨g.value, g.scale + 1⟩, true) else (⟨next, g.scale⟩, false)

/-- One more digit of the fraction. A digit that no longer fits is dropped, and all after it. -/
def Gathered.fractionDigit (g : Gathered) (full : Bool) (c : Char) : Gathered × Bool :=
  let next := g.value * 10 + Text.digitValue c
  if full || next > Text.maxWord then (g, true) else (⟨next, g.scale - 1⟩, false)

def gatherInteger (cs : List Char) : Gathered :=
  (cs.foldl (fun (g, full) c => g.integerDigit full c) ((⟨0, 0⟩ : Gathered), false)).1

def gatherFraction (g : Gathered) (cs : List Char) : Gathered :=
  (cs.foldl (fun (g, full) c => g.fractionDigit full c) (g, false)).1

def Gathered.isFinite (g : Gathered) : Bool :=
  g.value == 0 || g.scale < 0 ||
    (g.scale ≤ 308 &&
      round53 (round53 g.value * round53 (Nat.pow 10 g.scale.toNat)) < Nat.pow 2 1024)

def digits (cs : List Char) : List Char × List Char :=
  (cs.takeWhile Char.isDigit, cs.dropWhile Char.isDigit)

def exponent? (cs : List Char) : Option (Int × List Char) :=
  let (negative, rest) := match cs with
    | '+' :: r => (false, r)
    | '-' :: r => (true, r)
    | _ => (false, cs)
  match digits rest with
  | ([], _) => none
  | (ds, r) =>
    let n : Int := Text.digitsValue 10 Text.digitValue ds
    some (if negative then -n else n, r)

def integer? (cs : List Char) : Option (List Char × List Char) :=
  match digits cs with
  | ([], _) => none
  | ('0' :: _ :: _, _) => none
  | (ds, r) => some (ds, r)

def fraction? : List Char → Option (List Char × List Char)
  | '.' :: cs =>
    match digits cs with
    | ([], _) => none
    | (ds, r) => some (ds, r)
  | cs => some ([], cs)

def scaling? : List Char → Option (Int × List Char)
  | 'e' :: cs => exponent? cs
  | 'E' :: cs => exponent? cs
  | cs => some (0, cs)

def unsigned? (cs : List Char) : Option (List Char) := do
  let (whole, r₁) ← integer? cs
  let (fraction, r₂) ← fraction? r₁
  let (power, r₃) ← scaling? r₂
  let g := gatherFraction (gatherInteger whole) fraction
  if (⟨g.value, g.scale + power⟩ : Gathered).isFinite then some r₃ else none

def isPart (c : Char) : Bool :=
  c.isDigit || c == '-' || c == '+' || c == '.' || c == 'e' || c == 'E'

/-- Splits a number off the front of a text. It ends before the first character that cannot stand in
one. -/
def read? (cs : List Char) : Option (List Char × List Char) :=
  let spelling := cs.takeWhile isPart
  let rest := match spelling with
    | '-' :: r => unsigned? r
    | _ => unsigned? spelling
  match rest with
  | some [] => some (spelling, cs.dropWhile isPart)
  | _ => none

end PackageSweep.Json.Number
