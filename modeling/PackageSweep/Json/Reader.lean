import PackageSweep.Json.Value
import PackageSweep.Json.Number

/-!
# Reading JSON

The grammar of RFC 8259 and nothing beyond it: one value with white space around it, no comments and
no commas at the end. Where it leaves limits open, arrays and objects nest at most 127 deep, an
escaped surrogate stands for a character only as half of a pair, a number does not exceed the floats
of 64 bits, and of members with one name the last counts.

Of the reader, proofs use that it takes apart what the writer has put together, which is
`parse?_pretty` in `Proofs.Json.RoundTrip`.
-/

namespace PackageSweep.Json

def isSpace (c : Char) : Bool := c == ' ' || c == '\n' || c == '\t' || c == '\r'

def skipSpace (cs : List Char) : List Char := cs.dropWhile isSpace

def hexDigit? (c : Char) : Option Nat :=
  if c.isDigit then some (c.toNat - '0'.toNat)
  else if 'a' ≤ c ∧ c ≤ 'f' then some (c.toNat - 'a'.toNat + 10)
  else if 'A' ≤ c ∧ c ≤ 'F' then some (c.toNat - 'A'.toNat + 10)
  else none

def hexFour? (a b c d : Char) : Option Nat := do
  let a ← hexDigit? a
  let b ← hexDigit? b
  let c ← hexDigit? c
  let d ← hexDigit? d
  some (((a * 16 + b) * 16 + c) * 16 + d)

def shortEscape? : Char → Option Char
  | '"' => some '"'
  | '\\' => some '\\'
  | '/' => some '/'
  | 'b' => some '\x08'
  | 'f' => some '\x0c'
  | 'n' => some '\n'
  | 'r' => some '\r'
  | 't' => some '\t'
  | _ => none

def isLead (n : Nat) : Bool := 0xd800 ≤ n && n < 0xdc00
def isTrail (n : Nat) : Bool := 0xdc00 ≤ n && n < 0xe000

def textBody : List Char → Option (List Char × List Char)
  | '"' :: r => some ([], r)
  | '\\' :: 'u' :: a :: b :: c :: d :: r =>
    match hexFour? a b c d with
    | none => none
    | some n =>
      if isTrail n then none
      else if isLead n then
        match r with
        | '\\' :: 'u' :: a' :: b' :: c' :: d' :: r' =>
          match hexFour? a' b' c' d' with
          | none => none
          | some m =>
            if isTrail m then
              (textBody r').map fun (s, rest) =>
                (Char.ofNat (0x10000 + (n - 0xd800) * 0x400 + (m - 0xdc00)) :: s, rest)
            else none
        | _ => none
      else (textBody r).map fun (s, rest) => (Char.ofNat n :: s, rest)
  | '\\' :: c :: r =>
    match shortEscape? c with
    | none => none
    | some e => (textBody r).map fun (s, rest) => (e :: s, rest)
  | c :: r =>
    if c.toNat < 0x20 ∨ c = '\\' then none
    else (textBody r).map fun (s, rest) => (c :: s, rest)
  | [] => none

def word (w : List Char) (cs : List Char) : Option (List Char) :=
  if w.isPrefixOf cs then some (cs.drop w.length) else none

mutual

def value : (fuel depth : Nat) → List Char → Option (Value × List Char)
  | 0, _, _ => none
  | fuel + 1, depth, cs =>
    match skipSpace cs with
    | '"' :: r => (textBody r).map fun (s, rest) => (.text (String.ofList s), rest)
    | '[' :: r =>
      match depth with
      | 0 => none
      | depth + 1 =>
        match skipSpace r with
        | ']' :: rest => some (.array [], rest)
        | _ => (items fuel depth r).map fun (vs, rest) => (.array vs, rest)
    | '\x7b' :: r =>
      match depth with
      | 0 => none
      | depth + 1 =>
        match skipSpace r with
        | '\x7d' :: rest => some (.object [], rest)
        | _ => (members fuel depth r).map fun (ms, rest) => (.object ms, rest)
    | 'n' :: r => (word ['u', 'l', 'l'] r).map (.null, ·)
    | 't' :: r => (word ['r', 'u', 'e'] r).map (.bool true, ·)
    | 'f' :: r => (word ['a', 'l', 's', 'e'] r).map (.bool false, ·)
    | rest => (Number.read? rest).map fun (n, rest) => (.number n, rest)

def items : (fuel depth : Nat) → List Char → Option (List Value × List Char)
  | 0, _, _ => none
  | fuel + 1, depth, cs =>
    match value fuel depth cs with
    | none => none
    | some (v, r) =>
      match skipSpace r with
      | ']' :: rest => some ([v], rest)
      | ',' :: r => (items fuel depth r).map fun (vs, rest) => (v :: vs, rest)
      | _ => none

def members : (fuel depth : Nat) → List Char → Option (List (String × Value) × List Char)
  | 0, _, _ => none
  | fuel + 1, depth, cs =>
    match skipSpace cs with
    | '"' :: r =>
      match textBody r with
      | none => none
      | some (k, r) =>
        match skipSpace r with
        | ':' :: r =>
          match value fuel depth r with
          | none => none
          | some (v, r) =>
            match skipSpace r with
            | '\x7d' :: rest => some ([(String.ofList k, v)], rest)
            | ',' :: r =>
              (members fuel depth r).map fun (ms, rest) => ((String.ofList k, v) :: ms, rest)
            | _ => none
        | _ => none
    | _ => none

end

def maxDepth : Nat := 127

def parse? (cs : List Char) : Option Value :=
  match value (2 * cs.length + 2) maxDepth cs with
  | some (v, rest) => if skipSpace rest = [] then some v else none
  | none => none

end PackageSweep.Json
