import PackageSweep.Shell.Formatted

/-!
# Conditions

What `test` and its bracket form decide: conditions on texts, numbers and files, joined by negation,
conjunction and disjunction.
-/

namespace PackageSweep.Shell

/-- Why a condition cannot be decided. -/
inductive Unclear where
  | unexpectedOperator (text : Bytes)
  | argumentExpected
  | argumentExpectedAfter (text : Bytes)
  | closingExpected
  | illegalNumber (text : Bytes)
  deriving DecidableEq

def Unclear.text : Unclear → Bytes
  | .unexpectedOperator bs => bs ++ ascii ": unexpected operator"
  | .argumentExpected => ascii "argument expected"
  | .argumentExpectedAfter bs => bs ++ ascii ": argument expected"
  | .closingExpected => ascii "closing paren expected"
  | .illegalNumber bs => ascii "Illegal number: " ++ bs

namespace Condition

def size (w : World) (path : Bytes) : Nat :=
  match w.entryAt? (nameText path) with
  | some (.file bs) => bs.length
  | some .directory => 4096
  | _ => 0

def unary? (w : World) (op : Bytes) (a : Bytes) : Option Bool :=
  let there := w.entryAt? (nameText a)
  match String.ofList (Utf8.decodeLossy op) with
  | "-n" => some (a ≠ [])
  | "-z" => some (a = [])
  | "-e" => some there.isSome
  | "-r" => some (there.any (· != .sealed .permissionDenied))
  | "-w" => some (there.any (· != .sealed .permissionDenied))
  | "-x" => some (there == some .directory)
  | "-f" => some (there.any fun e => e != .directory && e != .device)
  | "-d" => some (there == some .directory)
  | "-c" => some (there == some .device)
  | "-s" => some (0 < size w a)
  | "-O" => some there.isSome
  | "-G" => some there.isSome
  | "-b" => some false
  | "-h" => some false
  | "-L" => some false
  | "-p" => some false
  | "-S" => some false
  | "-g" => some false
  | "-k" => some false
  | "-u" => some false
  | "-t" => some false
  | _ => none

def number (bs : Bytes) : Except Unclear Int :=
  let cs := Arithmetic.skipBlanks (Utf8.decodeLossy bs)
  let cs := (Arithmetic.skipBlanks cs.reverse).reverse
  let (isNegative, ds) := match cs with
    | '-' :: r => (true, r)
    | '+' :: r => (false, r)
    | r => (false, r)
  match Text.natural? ds with
  | some n => .ok (if isNegative then -n else n)
  | none => .error (.illegalNumber bs)

def binary? (w : World) (op : Bytes) (a b : Bytes) : Option (Except Unclear Bool) :=
  let numbers (f : Int → Int → Bool) : Option (Except Unclear Bool) :=
    some ((number a).bind fun m => (number b).map fun n => f m n)
  let place (path : Bytes) : Option Place := (w.find (nameText path)).toOption.map (·.1)
  match String.ofList (Utf8.decodeLossy op) with
  | "=" => some (.ok (a == b))
  | "!=" => some (.ok (a != b))
  | "<" => some (.ok (nameText a < nameText b))
  | ">" => some (.ok (nameText b < nameText a))
  | "-eq" => numbers (· == ·)
  | "-ne" => numbers (· != ·)
  | "-lt" => numbers (fun m n => m < n)
  | "-le" => numbers (fun m n => m ≤ n)
  | "-gt" => numbers (fun m n => n < m)
  | "-ge" => numbers (fun m n => n ≤ m)
  | "-ef" => some (.ok ((place a).isSome && place a == place b))
  | "-nt" => some (.ok ((place a).isSome && (place b).isNone))
  | "-ot" => some (.ok ((place a).isNone && (place b).isSome))
  | _ => none

abbrev Decision := Except Unclear (Bool × List Bytes)

mutual

def disjunction (w : World) : (fuel : Nat) → List Bytes → Decision
  | 0, _ => .error .argumentExpected
  | fuel + 1, as => do
    let (a, rest) ← conjunction w fuel as
    match rest with
    | o :: rest' =>
      if o = ascii "-o" then do
        let (b, rest) ← disjunction w fuel rest'
        pure (a || b, rest)
      else pure (a, rest)
    | [] => pure (a, [])

def conjunction (w : World) : (fuel : Nat) → List Bytes → Decision
  | 0, _ => .error .argumentExpected
  | fuel + 1, as => do
    let (a, rest) ← negation w fuel as
    match rest with
    | o :: rest' =>
      if o = ascii "-a" then do
        let (b, rest) ← conjunction w fuel rest'
        pure (a && b, rest)
      else pure (a, rest)
    | [] => pure (a, [])

def negation (w : World) : (fuel : Nat) → List Bytes → Decision
  | 0, _ => .error .argumentExpected
  | fuel + 1, as =>
    match as with
    | o :: b :: rest =>
      if o = ascii "!" && (binary? w b o (rest.headD [])).isNone then
        (negation w fuel (b :: rest)).map fun (a, rest) => (!a, rest)
      else single w fuel as
    | as => single w fuel as

def single (w : World) : (fuel : Nat) → List Bytes → Decision
  | 0, _ => .error .argumentExpected
  | fuel + 1, as =>
    match as with
    | [] => .error .argumentExpected
    | [a] => .ok (a ≠ [], [])
    | a :: b :: rest =>
      match rest, binary? w b a (rest.headD []) with
      | _ :: rest, some r => r.map (·, rest)
      | _, _ =>
        if a = ascii "(" then do
          let (v, rest) ← disjunction w fuel (b :: rest)
          match rest with
          | c :: rest => if c = ascii ")" then pure (v, rest) else .error .closingExpected
          | [] => .error .closingExpected
        else
          match unary? w a b with
          | some v => .ok (v, rest)
          | none =>
            if rest = [] ∧ (binary? w b a []).isSome then .error (.argumentExpectedAfter b)
            else .ok (a ≠ [], b :: rest)

end

/-- Decides a condition. No condition at all does not hold. -/
def decide (w : World) (as : List Bytes) : Except Unclear Bool :=
  match as with
  | [] => .ok false
  | as =>
    match disjunction w (4 * as.length + 4) as with
    | .error e => .error e
    | .ok (v, []) => .ok v
    | .ok (_, rest) => .error (.unexpectedOperator (as.getD (as.length - rest.length - 1) []))

end Condition

end PackageSweep.Shell
