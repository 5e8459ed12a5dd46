import PackageSweep.Shell.Utility.Expression
import PackageSweep.Shell.Arithmetic

/-!
# Calculating with arguments

The utility that takes each number, each text and each operator as an argument of its own.
-/

namespace PackageSweep.Shell.Utility

def operatorLevels : List (List String) :=
  [["|"], ["&"], ["=", "==", "!=", "<", "<=", ">", ">="], ["+", "-"], ["*", "/", "%"]]

def argumentNumber? (bs : Bytes) : Option Int :=
  match bs with
  | b :: ds => if b = byteOf '-' then (count? ds).map fun n => -(n : Int) else (count? bs).map (↑·)
  | [] => none

def isNull (v : Bytes) : Bool := v == [] || argumentNumber? v == some 0

/-- The order of two values: as numbers if both are, else as texts. -/
def compareValues (a b : Bytes) : Ordering :=
  match argumentNumber? a, argumentNumber? b with
  | some m, some n => compare m n
  | _, _ => compare (nameText a) (nameText b)

def operateOn (op : String) (a b : Bytes) : Except Bytes Bytes :=
  let truth (v : Bool) : Except Bytes Bytes := .ok (ascii (if v then "1" else "0"))
  match op with
  | "|" => .ok (if isNull a then (if b = [] then ascii "0" else b) else a)
  | "&" => .ok (if isNull a || isNull b then ascii "0" else a)
  | "=" => truth (compareValues a b == .eq)
  | "==" => truth (compareValues a b == .eq)
  | "!=" => truth (compareValues a b != .eq)
  | "<" => truth (compareValues a b == .lt)
  | "<=" => truth (compareValues a b != .gt)
  | ">" => truth (compareValues a b == .gt)
  | ">=" => truth (compareValues a b != .lt)
  | op =>
    match argumentNumber? a, argumentNumber? b with
    | some m, some n =>
      let number (k : Int) : Except Bytes Bytes := .ok (ascii (toString k))
      match op with
      | "+" => number (m + n)
      | "-" => number (m - n)
      | "*" => number (m * n)
      | "/" => if n = 0 then .error (ascii "division by zero") else number (m.tdiv n)
      | _ => if n = 0 then .error (ascii "division by zero") else number (m.tmod n)
    | _, _ => .error (ascii "non-integer argument")

mutual

def calculated : (fuel : Nat) → List (List String) → List Bytes →
    Except Bytes (Bytes × List Bytes)
  | 0, _, _ => .error (ascii "syntax error")
  | fuel + 1, [], as =>
    match as with
    | [] => .error (ascii "syntax error: missing argument")
    | a :: rest =>
      if a = ascii "(" then
        match calculated fuel operatorLevels rest with
        | .error e => .error e
        | .ok (v, c :: rest) =>
          if c = ascii ")" then .ok (v, rest)
          else .error (ascii "syntax error: expecting ')' instead of " ++ inQuotes c)
        | .ok (_, []) => .error (ascii "syntax error: expecting ')' after " ++ inQuotes a)
      else if a = ascii "length" ∧ rest ≠ [] then
        .ok (decimal (rest.headD []).length, rest.tail)
      else .ok (a, rest)
  | fuel + 1, level :: tighter, as =>
    match calculated fuel tighter as with
    | .error e => .error e
    | .ok (v, rest) => continued fuel level tighter v rest

def continued : (fuel : Nat) → List String → List (List String) → Bytes → List Bytes →
    Except Bytes (Bytes × List Bytes)
  | 0, _, _, _, _ => .error (ascii "syntax error")
  | _ + 1, _, _, v, [] => .ok (v, [])
  | fuel + 1, level, tighter, v, o :: rest =>
    if level.contains (nameText o) then
      match rest with
      | [] => .error (ascii "syntax error: missing argument after " ++ inQuotes o)
      | rest =>
        match calculated fuel tighter rest with
        | .error e => .error e
        | .ok (u, rest) =>
          match operateOn (nameText o) v u with
          | .error e => .error e
          | .ok v => continued fuel level tighter v rest
    else .ok (v, o :: rest)

end

def expr : Utility := fun c =>
  let bad (what : Bytes) : Done := { status := 2, written := c.reports what, world := c.world }
  if c.arguments = [] then c.misused (ascii "missing operand") 2
  else
    match calculated (8 * c.arguments.length + 8) operatorLevels c.arguments with
    | .error e => bad e
    | .ok (v, []) => { c.prints (v ++ ascii "\n") with status := if isNull v then 1 else 0 }
    | .ok (_, extra :: _) => bad (ascii "syntax error: unexpected argument " ++ inQuotes extra)

end PackageSweep.Shell.Utility
