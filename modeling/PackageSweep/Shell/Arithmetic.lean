import PackageSweep.Shell.Word
import PackageSweep.Text.Numeral

/-!
# Arithmetic of the shell

Expressions over signed words of 64 bits. Names stand for the numbers that variables hold, and an
assignment is reported beside the value.
-/

namespace PackageSweep.Shell

namespace Arithmetic

inductive Term where
  | number (n : Int)
  | name (cs : List Char)
  | unary (op : String) (t : Term)
  | binary (op : String) (a b : Term)
  | ternary (test yes no : Term)
  | assign (name : List Char) (op : String) (t : Term)

inductive Trouble where
  | divisionByZero
  | expectation
  | leftOver
  | badNumber (text : List Char)
  deriving DecidableEq

def Trouble.text : Trouble → String
  | .divisionByZero => "arithmetic expression: division by zero"
  | .expectation => "arithmetic expression: expecting primary"
  | .leftOver => "arithmetic expression: expecting EOF"
  | .badNumber cs => "Illegal number: " ++ String.ofList cs

def word (n : Int) : Int := Int.bmod n Text.wordRange

/-- The number that a numeral in decimal, octal or hexadecimal stands for. -/
def numeral? (cs : List Char) : Option Int :=
  let hexDigit (c : Char) : Option Nat :=
    if c.isDigit then some (c.toNat - '0'.toNat)
    else if 'a' ≤ c ∧ c ≤ 'f' then some (c.toNat - 'a'.toNat + 10)
    else if 'A' ≤ c ∧ c ≤ 'F' then some (c.toNat - 'A'.toNat + 10)
    else none
  let inBase (base : Nat) (ds : List Char) : Option Int := do
    let values ← ds.mapM hexDigit
    if ds = [] ∨ values.any (base ≤ ·) then none
    else some (word (values.foldl (fun n d => n * base + d) 0 : Nat))
  match cs with
  | '0' :: 'x' :: ds => inBase 16 ds
  | '0' :: 'X' :: ds => inBase 16 ds
  | '0' :: d :: ds => inBase 8 (d :: ds)
  | ds => inBase 10 ds

/-- The operators between two operands, longest first, with how tightly each binds. -/
def operators : List (String × Nat) :=
  [("||", 1), ("&&", 2), ("==", 6), ("!=", 6), ("<=", 7), (">=", 7), ("<<", 8), (">>", 8),
    ("|", 3), ("^", 4), ("&", 5), ("<", 7), (">", 7), ("+", 9), ("-", 9), ("*", 10), ("/", 10),
    ("%", 10)]

def assigning : List String :=
  ["<<=", ">>=", "+=", "-=", "*=", "/=", "%=", "&=", "^=", "|=", "="]

def skipBlanks (cs : List Char) : List Char :=
  cs.dropWhile fun c => c == ' ' || c == '\t' || c == '\n'

def after? (op : String) (cs : List Char) : Option (List Char) :=
  if op.toList.isPrefixOf cs then some (cs.drop op.length) else none

def numeralFront (cs : List Char) : List Char × List Char :=
  let isHex (c : Char) : Bool := c.isDigit || ('a' ≤ c && c ≤ 'f') || ('A' ≤ c && c ≤ 'F')
  let isOct (c : Char) : Bool := '0' ≤ c && c ≤ '7'
  match cs with
  | '0' :: x :: d :: r =>
    if (x = 'x' ∨ x = 'X') ∧ isHex d then
      ('0' :: x :: (d :: r).takeWhile isHex, (d :: r).dropWhile isHex)
    else ('0' :: (x :: d :: r).takeWhile isOct, (x :: d :: r).dropWhile isOct)
  | '0' :: r => ('0' :: r.takeWhile isOct, r.dropWhile isOct)
  | r => (r.takeWhile Char.isDigit, r.dropWhile Char.isDigit)

abbrev Read := Except Trouble (Term × List Char)

mutual

def primary : (fuel : Nat) → List Char → Read
  | 0, _ => .error .expectation
  | fuel + 1, cs =>
    match skipBlanks cs with
    | '(' :: r =>
      match whole fuel r with
      | .error e => .error e
      | .ok (t, r) =>
        match skipBlanks r with
        | ')' :: r => .ok (t, r)
        | _ => .error .expectation
    | '+' :: r => primary fuel r
    | '-' :: r => (primary fuel r).map fun (t, r) => (.unary "-" t, r)
    | '~' :: r => (primary fuel r).map fun (t, r) => (.unary "~" t, r)
    | '!' :: r => (primary fuel r).map fun (t, r) => (.unary "!" t, r)
    | c :: r =>
      if isNameStart c then
        let name := c :: r.takeWhile isNamePart
        let r := r.dropWhile isNamePart
        let rest := skipBlanks r
        match assigning.findSome? fun op => (after? op rest).map (op, ·) with
        | some (op, r') =>
          if op = "=" ∧ r'.head? = some '=' then .ok (.name name, r)
          else
            (whole fuel r').map fun (t, r) =>
              (.assign name (String.ofList op.toList.dropLast) t, r)
        | none => .ok (.name name, r)
      else if c.isDigit then
        let (digits, r) := numeralFront (c :: r)
        match numeral? digits with
        | some n => .ok (.number n, r)
        | none => .error .expectation
      else .error .expectation
    | [] => .error .expectation

/-- Operators that bind at least as tightly as asked, after a first operand. -/
def operated : (fuel : Nat) → (least : Nat) → Term → List Char → Read
  | 0, _, _, _ => .error .expectation
  | fuel + 1, least, t, cs =>
    let rest := skipBlanks cs
    match operators.findSome? fun (op, level) => (after? op rest).map (op, level, ·) with
    | none => .ok (t, cs)
    | some (op, level, r) =>
      if level < least then .ok (t, cs)
      else
        match primary fuel r with
        | .error e => .error e
        | .ok (u, r) =>
          match operated fuel (level + 1) u r with
          | .error e => .error e
          | .ok (u, r) => operated fuel least (.binary op t u) r

def whole : (fuel : Nat) → List Char → Read
  | 0, _ => .error .expectation
  | fuel + 1, cs =>
    match primary fuel cs with
    | .error e => .error e
    | .ok (t, r) =>
      match operated fuel 1 t r with
      | .error e => .error e
      | .ok (t, r) =>
        match skipBlanks r with
        | '?' :: r =>
          match whole fuel r with
          | .error e => .error e
          | .ok (yes, r) =>
            match skipBlanks r with
            | ':' :: r => (whole fuel r).map fun (no, r) => (.ternary t yes no, r)
            | _ => .error .expectation
        | r => .ok (t, r)

end

def read (cs : List Char) : Except Trouble Term :=
  if skipBlanks cs = [] then .ok (.number 0)
  else
    match whole (3 * cs.length + 3) cs with
    | .error e => .error e
    | .ok (t, r) => if skipBlanks r = [] then .ok t else .error .leftOver

def truth (b : Bool) : Int := if b then 1 else 0

def bits (n : Int) : Nat := (n % Text.wordRange).toNat

def operate (op : String) (a b : Int) : Except Trouble Int :=
  match op with
  | "+" => .ok (word (a + b))
  | "-" => .ok (word (a - b))
  | "*" => .ok (word (a * b))
  | "/" => if b = 0 then .error .divisionByZero else .ok (word (a.tdiv b))
  | "%" => if b = 0 then .error .divisionByZero else .ok (word (a.tmod b))
  | "<<" => .ok (word (a * Nat.pow 2 (bits b % 64)))
  | ">>" => .ok (word (a.fdiv (Nat.pow 2 (bits b % 64))))
  | "&" => .ok (word (bits a &&& bits b : Nat))
  | "|" => .ok (word (bits a ||| bits b : Nat))
  | "^" => .ok (word (bits a ^^^ bits b : Nat))
  | "==" => .ok (truth (a == b))
  | "!=" => .ok (truth (a != b))
  | "<" => .ok (truth (a < b))
  | "<=" => .ok (truth (a ≤ b))
  | ">" => .ok (truth (b < a))
  | ">=" => .ok (truth (b ≤ a))
  | _ => .ok b

abbrev Values := List (List Char × Int)

/-- The value of an expression and the assignments made on the way. Names without an assignment have
the value that the shell looks up. -/
def eval (lookUp : List Char → Except Trouble Int) : Term → Values → Except Trouble (Int × Values)
  | .number n, vs => .ok (n, vs)
  | .name cs, vs =>
    match vs.lookup cs with
    | some n => .ok (n, vs)
    | none => (lookUp cs).map (·, vs)
  | .unary op t, vs =>
    (eval lookUp t vs).map fun (n, vs) =>
      (match op with
        | "-" => word (-n)
        | "~" => word (-n - 1)
        | _ => truth (n == 0), vs)
  | .binary op a b, vs =>
    match eval lookUp a vs with
    | .error e => .error e
    | .ok (m, vs) =>
      if op = "&&" ∧ m = 0 then .ok (0, vs)
      else if op = "||" ∧ m ≠ 0 then .ok (1, vs)
      else
        match eval lookUp b vs with
        | .error e => .error e
        | .ok (n, vs) =>
          if op = "&&" ∨ op = "||" then .ok (truth (n != 0), vs)
          else (operate op m n).map (·, vs)
  | .ternary test yes no, vs =>
    match eval lookUp test vs with
    | .error e => .error e
    | .ok (n, vs) => if n ≠ 0 then eval lookUp yes vs else eval lookUp no vs
  | .assign name op t, vs =>
    match eval lookUp t vs with
    | .error e => .error e
    | .ok (n, vs) =>
      let old : Except Trouble Int := match vs.lookup name with
        | some m => .ok m
        | none => if op = "" then .ok 0 else lookUp name
      match old with
      | .error e => .error e
      | .ok m => (operate op m n).map fun k => (k, (name, k) :: vs)

end Arithmetic

end PackageSweep.Shell
