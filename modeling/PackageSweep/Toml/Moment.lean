import PackageSweep.Text.Numeral

/-!
# Dates and times

A moment is a date, a time, or both; with both there may be an offset. Days are checked against the
calendar, a second may be the sixtieth, and seconds may be left out.
-/

namespace PackageSweep.Toml.Moment

def two? : List Char → Option (Nat × List Char)
  | a :: b :: r =>
    if a.isDigit && b.isDigit then some (10 * Text.digitValue a + Text.digitValue b, r) else none
  | _ => none

def four? (cs : List Char) : Option (Nat × List Char) := do
  let (a, r) ← two? cs
  let (b, r) ← two? r
  some (100 * a + b, r)

def mark? (c : Char) : List Char → Option (List Char)
  | d :: r => if c = d then some r else none
  | [] => none

def isLeap (year : Nat) : Bool := year % 4 == 0 && (year % 100 != 0 || year % 400 == 0)

def daysIn (year month : Nat) : Nat :=
  if month = 2 then (if isLeap year then 29 else 28)
  else if month = 4 ∨ month = 6 ∨ month = 9 ∨ month = 11 then 30
  else 31

def date? (cs : List Char) : Option (List Char) := do
  let (year, r) ← four? cs
  let r ← mark? '-' r
  let (month, r) ← two? r
  let r ← mark? '-' r
  let (day, r) ← two? r
  if 1 ≤ month ∧ month ≤ 12 ∧ 1 ≤ day ∧ day ≤ daysIn year month then some r else none

/-- What follows the part of a second at the front, if there is one. -/
def fraction? : List Char → Option (List Char)
  | '.' :: c :: r => if c.isDigit then some (r.dropWhile Char.isDigit) else none
  | '.' :: [] => none
  | r => some r

def seconds? : List Char → Option (List Char)
  | ':' :: r => do
    let (second, r) ← two? r
    if second ≤ 60 then fraction? r else none
  | r => some r

def time? (cs : List Char) : Option (List Char) := do
  let (hour, r) ← two? cs
  let r ← mark? ':' r
  let (minute, r) ← two? r
  if hour ≤ 23 ∧ minute ≤ 59 then seconds? r else none

def isOffset : List Char → Bool
  | [] => true
  | ['Z'] => true
  | ['z'] => true
  | c :: r =>
    (c == '+' || c == '-') &&
      match two? r with
      | some (hour, ':' :: r) =>
        match two? r with
        | some (minute, []) => hour ≤ 23 && minute ≤ 59
        | _ => false
      | _ => false

def isDelimiter (c : Char) : Bool := c == 'T' || c == 't' || c == ' '

def isMoment (cs : List Char) : Bool :=
  match date? cs with
  | some [] => true
  | some (d :: r) => isDelimiter d && (match time? r with
    | some rest => isOffset rest
    | none => false)
  | none => time? cs == some []

/-- Whether a text begins with a date, which a time may follow after a space. -/
def isDate (cs : List Char) : Bool := date? cs == some []

end PackageSweep.Toml.Moment
