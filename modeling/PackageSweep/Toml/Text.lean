import PackageSweep.Toml.Number

/-!
# TOML strings

Four kinds: basic strings have escapes, literal strings have none, and each may span lines between
triple quotes. Control characters other than the tab stand in no string; line breaks only between
triple quotes, where they are kept as written.
-/

namespace PackageSweep.Toml.Text

/-- A control character that may stand in no string and no comment. -/
def isControl (c : Char) : Bool := (c.toNat < 0x20 && c != '\t') || c.toNat == 0x7f

/-- The character with this code point, unless it is a surrogate or too large. -/
def scalar? (n : Nat) : Option Char :=
  if n < 0xd800 ∨ (0xdfff < n ∧ n < 0x110000) then some (Char.ofNat n) else none

def hex? (ds : List Char) : Option Char :=
  if ds.all Number.isHexDigit then scalar? (Text.digitsValue 16 Number.hexValue ds) else none

def shortEscape? : Char → Option Char
  | 'b' => some '\x08'
  | 't' => some '\t'
  | 'n' => some '\n'
  | 'f' => some '\x0c'
  | 'r' => some '\r'
  | 'e' => some '\x1b'
  | '"' => some '"'
  | '\\' => some '\\'
  | _ => none

def before (c : Char) : List Char × List Char → List Char × List Char
  | (s, rest) => (c :: s, rest)

def basic : List Char → Option (List Char × List Char)
  | '"' :: r => some ([], r)
  | '\\' :: 'x' :: a :: b :: r =>
    match hex? [a, b] with
    | some c => (basic r).map (before c)
    | none => none
  | '\\' :: 'u' :: a :: b :: c :: d :: r =>
    match hex? [a, b, c, d] with
    | some c => (basic r).map (before c)
    | none => none
  | '\\' :: 'U' :: a :: b :: c :: d :: e :: f :: g :: h :: r =>
    match hex? [a, b, c, d, e, f, g, h] with
    | some c => (basic r).map (before c)
    | none => none
  | '\\' :: c :: r =>
    match shortEscape? c with
    | some c => (basic r).map (before c)
    | none => none
  | c :: r => if isControl c ∨ c = '\\' then none else (basic r).map (before c)
  | [] => none

def literal : List Char → Option (List Char × List Char)
  | '\'' :: r => some ([], r)
  | c :: r => if isControl c then none else (literal r).map (before c)
  | [] => none

def lineBreak? : List Char → Option (List Char)
  | '\n' :: r => some r
  | '\r' :: '\n' :: r => some r
  | _ => none

/-- The quotes that end a string between triple quotes: up to two more before the closing three
belong to the string. -/
def closing? (quote : Char) : List Char → Option (List Char × List Char)
  | a :: b :: c :: r =>
    if a = quote ∧ b = quote ∧ c = quote then
      match r with
      | d :: e :: rest =>
        if d = quote ∧ e = quote then some ([quote, quote], rest)
        else if d = quote then some ([quote], e :: rest)
        else some ([], r)
      | [d] => if d = quote then some ([quote], []) else some ([], r)
      | [] => some ([], [])
    else none
  | _ => none

/-- What stands between the lines of a string: the part of a line being read, or the white space
after a backslash at the end of a line, before or after its line break. -/
inductive Fold where
  | line
  | ending
  | gap
  deriving DecidableEq

def basicLines : Fold → List Char → Option (List Char × List Char)
  | _, [] => none
  | .ending, c :: r =>
    if c = ' ' ∨ c = '\t' then basicLines .ending r
    else
      match c, r with
      | '\n', r => basicLines .gap r
      | '\r', '\n' :: r => basicLines .gap r
      | _, _ => none
  | fold, c :: r =>
    if fold = .gap ∧ (c = ' ' ∨ c = '\t' ∨ c = '\n') then basicLines .gap r
    else
      match closing? '"' (c :: r) with
      | some found => some found
      | none =>
        match c, r with
        | '\r', '\n' :: r =>
          if fold = .gap then basicLines .gap r
          else (basicLines .line r).map (before '\r' ∘ before '\n')
        | '\n', r => (basicLines .line r).map (before '\n')
        | '\\', 'x' :: a :: b :: r =>
          match hex? [a, b] with
          | some c => (basicLines .line r).map (before c)
          | none => none
        | '\\', 'u' :: a :: b :: c :: d :: r =>
          match hex? [a, b, c, d] with
          | some c => (basicLines .line r).map (before c)
          | none => none
        | '\\', 'U' :: a :: b :: c :: d :: e :: f :: g :: h :: r =>
          match hex? [a, b, c, d, e, f, g, h] with
          | some c => (basicLines .line r).map (before c)
          | none => none
        | '\\', d :: r =>
          match shortEscape? d with
          | some d => (basicLines .line r).map (before d)
          | none =>
            if d = ' ' ∨ d = '\t' then basicLines .ending r
            else
              match d, r with
              | '\n', r => basicLines .gap r
              | '\r', '\n' :: r => basicLines .gap r
              | _, _ => none
        | c, r => if isControl c ∨ c = '\\' then none else (basicLines .line r).map (before c)

def literalLines : List Char → Option (List Char × List Char)
  | [] => none
  | c :: r =>
    match closing? '\'' (c :: r) with
    | some found => some found
    | none =>
      match c, r with
      | '\r', '\n' :: r => (literalLines r).map (before '\r' ∘ before '\n')
      | '\n', r => (literalLines r).map (before '\n')
      | c, r => if isControl c then none else (literalLines r).map (before c)

def afterBreak (cs : List Char) : List Char := (lineBreak? cs).getD cs

def read? : List Char → Option (List Char × List Char)
  | '"' :: '"' :: '"' :: r => basicLines .line (afterBreak r)
  | '\'' :: '\'' :: '\'' :: r => literalLines (afterBreak r)
  | '"' :: r => basic r
  | '\'' :: r => literal r
  | _ => none

end PackageSweep.Toml.Text
