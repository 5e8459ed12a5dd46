import PackageSweep.Text.Numeral
import PackageSweep.Toml.Value

/-!
# TOML numbers

Digits may be grouped by single underscores. An integer must fit 128 bits with sign; a float must
not be so large that it rounds to infinity.
-/

namespace PackageSweep.Toml.Number

/-- The digits without their grouping. An underscore must stand between two digits. -/
def ungrouped? (isDigit : Char → Bool) : List Char → Option (List Char)
  | [] => none
  | [c] => if isDigit c then some [c] else none
  | c :: '_' :: rest => if isDigit c then (ungrouped? isDigit rest).map (c :: ·) else none
  | c :: rest => if isDigit c then (ungrouped? isDigit rest).map (c :: ·) else none

def isHexDigit (c : Char) : Bool := c.isDigit || ('a' ≤ c && c ≤ 'f') || ('A' ≤ c && c ≤ 'F')
def isOctalDigit (c : Char) : Bool := '0' ≤ c && c ≤ '7'
def isBinaryDigit (c : Char) : Bool := c == '0' || c == '1'

def hexValue (c : Char) : Nat :=
  if c.isDigit then c.toNat - '0'.toNat
  else if 'a' ≤ c then c.toNat - 'a'.toNat + 10
  else c.toNat - 'A'.toNat + 10

def maxInteger : Int := 170141183460469231731687303715884105727
def minInteger : Int := -170141183460469231731687303715884105728

def fitting? (n : Int) : Option Value :=
  if minInteger ≤ n ∧ n ≤ maxInteger then some (.integer n) else none

def based? (isDigit : Char → Bool) (base : Nat) (cs : List Char) : Option Value := do
  let ds ← ungrouped? isDigit cs
  fitting? (Text.digitsValue base hexValue ds)

def leading? (cs : List Char) : Option (List Char) :=
  match ungrouped? Char.isDigit cs with
  | some ('0' :: _ :: _) => none
  | ds => ds

def integer? (negative : Bool) (cs : List Char) : Option Value := do
  let ds ← leading? cs
  let n : Int := Text.digitsValue 10 Text.digitValue ds
  fitting? (if negative then -n else n)

def infinite : Nat := Nat.pow 2 1024 - Nat.pow 2 970

/-- Whether the digits scaled by a power of ten round to infinity. Only a number of exactly 309
places has to be computed. -/
def overflows (ds : List Char) (scale : Int) : Bool :=
  let significant := ds.dropWhile (· == '0')
  let places : Int := significant.length + scale
  let n := Text.digitsValue 10 Text.digitValue significant
  if significant = [] ∨ places < 309 then false
  else if places > 309 then true
  else if 0 ≤ scale then infinite ≤ n * Nat.pow 10 scale.toNat
  else infinite * Nat.pow 10 (-scale).toNat ≤ n

def exponent? (cs : List Char) : Option Int :=
  match cs with
  | '+' :: r => (ungrouped? Char.isDigit r).map fun ds =>
      (Text.digitsValue 10 Text.digitValue ds : Int)
  | '-' :: r => (ungrouped? Char.isDigit r).map fun ds =>
      -(Text.digitsValue 10 Text.digitValue ds : Int)
  | _ => (ungrouped? Char.isDigit cs).map fun ds =>
      (Text.digitsValue 10 Text.digitValue ds : Int)

def isExponentLetter (c : Char) : Bool := c == 'e' || c == 'E'

/-- A float without its sign: digits, then a fraction, an exponent, or both. -/
def float? (spelling cs : List Char) : Option Value := do
  let mantissa := cs.takeWhile (!isExponentLetter ·)
  let power ← match cs.dropWhile (!isExponentLetter ·) with
    | [] => some 0
    | _ :: r => exponent? r
  let whole ← leading? (mantissa.takeWhile (· != '.'))
  let fraction ← match mantissa.dropWhile (· != '.') with
    | [] => some []
    | _ :: r => ungrouped? Char.isDigit r
  if overflows (whole ++ fraction) (power - fraction.length) then none
  else some (.float spelling)

def decimal? (negative : Bool) (spelling cs : List Char) : Option Value :=
  if cs = ['i', 'n', 'f'] ∨ cs = ['n', 'a', 'n'] then some (.float spelling)
  else if cs.any fun c => c == '.' || isExponentLetter c then float? spelling cs
  else integer? negative cs

/-- A number of any kind. Only decimal numbers take a sign. -/
def read? (cs : List Char) : Option Value :=
  match cs with
  | '+' :: r => decimal? false cs r
  | '-' :: r => decimal? true cs r
  | '0' :: 'x' :: r => based? isHexDigit 16 r
  | '0' :: 'o' :: r => based? isOctalDigit 8 r
  | '0' :: 'b' :: r => based? isBinaryDigit 2 r
  | _ => decimal? false cs cs

end PackageSweep.Toml.Number
