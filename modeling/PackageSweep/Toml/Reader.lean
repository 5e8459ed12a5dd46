import PackageSweep.Toml.Moment
import PackageSweep.Toml.Table
import PackageSweep.Toml.Text

/-!
# Reading TOML

The rules are those of TOML 1.1. A document is a list of statements: headers, headers of arrays, and
pairs of a key and a value. Each stands on a line of its own, with white space and a comment behind
it. A key is given a value once, and a table is begun once. Arrays and tables between braces may go
over lines, hold comments and end in a comma. A mark of the byte order in front is passed over.

Where the rules leave limits open, values nest at most 80 deep, a key has at most 80 names, an
integer fits 128 bits with sign, and a float is not so large that it rounds to infinity.

Of the reader, proofs use what is gathered in `Proofs.Toml.Kept` and `Proofs.Config.ListDocument`:
that an array stays in a document as it was written, and what a list of strings is read as.
-/

namespace PackageSweep.Toml

def isSpace (c : Char) : Bool := c == ' ' || c == '\t'

def skipSpace (cs : List Char) : List Char := cs.dropWhile isSpace

def comment? : List Char → Option (List Char)
  | [] => some []
  | '\n' :: r => some ('\n' :: r)
  | '\r' :: '\n' :: r => some ('\r' :: '\n' :: r)
  | c :: r => if Text.isControl c then none else comment? r

/-- What follows the end of a line: white space, perhaps a comment, and a line break or the end of
the text. -/
def lineEnd? (cs : List Char) : Option (List Char) := do
  let rest ← match skipSpace cs with
    | '#' :: r => comment? r
    | r => some r
  match rest with
  | [] => some []
  | r => Text.lineBreak? r

/-- What follows white space, line breaks and comments. The flag says that the text begins inside a
comment. -/
def skipLines? : (comment : Bool) → List Char → Option (List Char)
  | _, [] => some []
  | _, '\n' :: r => skipLines? false r
  | _, '\r' :: '\n' :: r => skipLines? false r
  | true, c :: r => if Text.isControl c then none else skipLines? true r
  | false, c :: r =>
    if c = '#' then skipLines? true r
    else if isSpace c then skipLines? false r
    else some (c :: r)

def isBare (c : Char) : Bool := c.isAlphanum || c == '_' || c == '-'

def name? (cs : List Char) : Option (String × List Char) :=
  match cs with
  | '"' :: r => (Text.basic r).map fun (s, rest) => (String.ofList s, rest)
  | '\'' :: r => (Text.literal r).map fun (s, rest) => (String.ofList s, rest)
  | _ =>
    match cs.takeWhile isBare with
    | [] => none
    | s => some (String.ofList s, cs.dropWhile isBare)

def maxNames : Nat := 80

def dottedNames : (limit : Nat) → List Char → Option (List String × List Char)
  | 0, _ => none
  | limit + 1, cs =>
    match skipSpace cs with
    | '.' :: r =>
      match name? (skipSpace r) with
      | some (k, r) => (dottedNames limit r).map fun (ks, rest) => (k :: ks, rest)
      | none => none
    | r => some ([], r)

/-- A key: the names before the last, the last one, and what follows with its white space gone. -/
def key? (cs : List Char) : Option (Table.Path × String × List Char) := do
  let (k, r) ← name? cs
  let (ks, rest) ← dottedNames maxNames r
  some ((k :: ks).dropLast, (k :: ks).getLast (by simp), rest)

def endsScalar (c : Char) : Bool :=
  isSpace c || c == '\n' || c == '\r' || c == '#' || c == ',' || c == '=' || c == '[' || c == ']' ||
    c == '\x7b' || c == '\x7d' || c == '"' || c == '\''

def scalar? (cs : List Char) : Option Value :=
  if cs = ['t', 'r', 'u', 'e'] then some (.boolean true)
  else if cs = ['f', 'a', 'l', 's', 'e'] then some (.boolean false)
  else if Moment.isMoment cs then some (.moment cs)
  else Number.read? cs

/-- Splits the spelling of a value without quotes off the front. A date is joined by the time after
one space, when a digit shows that there is one. -/
def spelling (cs : List Char) : List Char × List Char :=
  let s := cs.takeWhile (!endsScalar ·)
  let rest := cs.dropWhile (!endsScalar ·)
  match rest with
  | ' ' :: c :: r =>
    if Moment.isDate s && c.isDigit then
      (s ++ ' ' :: (c :: r).takeWhile (!endsScalar ·), (c :: r).dropWhile (!endsScalar ·))
    else (s, rest)
  | _ => (s, rest)

def maxDepth : Nat := 80

mutual

def value : (fuel depth : Nat) → List Char → Option (Value × List Char)
  | 0, _, _ => none
  | fuel + 1, depth, cs =>
    match cs with
    | '[' :: r =>
      match depth with
      | 0 => none
      | depth + 1 => (items fuel depth r).map fun (vs, rest) => (.array vs, rest)
    | '\x7b' :: r =>
      match depth with
      | 0 => none
      | depth + 1 =>
        (pairs fuel depth r).bind fun (ps, rest) => (Table.ofPairs ps).map (·, rest)
    | '"' :: _ => (Text.read? cs).map fun (s, rest) => (.text (String.ofList s), rest)
    | '\'' :: _ => (Text.read? cs).map fun (s, rest) => (.text (String.ofList s), rest)
    | _ =>
      let (s, rest) := spelling cs
      (scalar? s).map (·, rest)

def items : (fuel depth : Nat) → List Char → Option (List Value × List Char)
  | 0, _, _ => none
  | fuel + 1, depth, cs =>
    match skipLines? false cs with
    | none => none
    | some (']' :: rest) => some ([], rest)
    | some r =>
      match value fuel depth r with
      | none => none
      | some (v, r) =>
        match skipLines? false r with
        | some (']' :: rest) => some ([v], rest)
        | some (',' :: r) => (items fuel depth r).map fun (vs, rest) => (v :: vs, rest)
        | _ => none

def pairs : (fuel depth : Nat) → List Char →
    Option (List (Table.Path × String × Value) × List Char)
  | 0, _, _ => none
  | fuel + 1, depth, cs =>
    match skipLines? false cs with
    | none => none
    | some ('\x7d' :: rest) => some ([], rest)
    | some r =>
      match key? r with
      | some (path, key, '=' :: r) =>
        match value fuel depth (skipSpace r) with
        | none => none
        | some (v, r) =>
          match skipLines? false r with
          | some ('\x7d' :: rest) => some ([(path, key, v)], rest)
          | some (',' :: r) =>
            (pairs fuel depth r).map fun (ps, rest) => ((path, key, v) :: ps, rest)
          | _ => none
      | _ => none

end

/-- One statement of a document. -/
inductive Statement where
  /-- `[path.key]` -/
  | header (path : Table.Path) (key : String)
  /-- `[[path.key]]` -/
  | arrayHeader (path : Table.Path) (key : String)
  /-- `path.key = value` -/
  | pair (path : Table.Path) (key : String) (v : Value)

def statement? (fuel : Nat) (cs : List Char) : Option (Statement × List Char) :=
  match cs with
  | '[' :: '[' :: r =>
    match key? (skipSpace r) with
    | some (path, key, ']' :: ']' :: r) => (lineEnd? r).map (.arrayHeader path key, ·)
    | _ => none
  | '[' :: r =>
    match key? (skipSpace r) with
    | some (path, key, ']' :: r) => (lineEnd? r).map (.header path key, ·)
    | _ => none
  | _ =>
    match key? cs with
    | some (path, key, '=' :: r) =>
      match value fuel maxDepth (skipSpace r) with
      | some (v, r) => (lineEnd? r).map (.pair path key v, ·)
      | none => none
    | _ => none

/-- Reads all statements of a document. Each character takes at most two units of fuel from a value,
and each statement one unit from those after it. -/
def statements : (fuel : Nat) → List Char → Option (List Statement)
  | 0, _ => none
  | fuel + 1, cs =>
    match skipLines? false cs with
    | none => none
    | some [] => some []
    | some r =>
      match statement? fuel r with
      | some (s, rest) => (statements fuel rest).map (s :: ·)
      | none => none

/-- A document being built: the root table, and the header that pairs go under. -/
structure Draft where
  entries : Entries
  under : Table.Path

def Draft.take (d : Draft) : Statement → Option Draft
  | .header path key =>
    (Table.walk false (Table.opened key) path .header d.entries).map fun t =>
      ⟨t.2, path ++ [key]⟩
  | .arrayHeader path key =>
    (Table.walk false (Table.appended key) path .header d.entries).map fun t =>
      ⟨t.2, path ++ [key]⟩
  | .pair path key v =>
    (Table.walk false (Table.insert path key v) d.under .header d.entries).map fun t =>
      ⟨t.2, d.under⟩

def withoutMark : List Char → List Char
  | '\ufeff' :: r => r
  | cs => cs

def parse? (cs : List Char) : Option Entries := do
  let text := withoutMark cs
  let ss ← statements (2 * text.length + 2) text
  let d ← ss.foldlM Draft.take ⟨[], []⟩
  some d.entries

end PackageSweep.Toml
