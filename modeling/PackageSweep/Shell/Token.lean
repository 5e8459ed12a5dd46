import PackageSweep.Shell.Word

/-!
# Tokens of the shell

A text is cut into words, marks and redirections, each with the number of its line. The body of a
here-document stands after the line that asks for it; bodies are collected on the way and then
filled in where they are asked for. A text that cannot be cut further ends in its defect.
-/

namespace PackageSweep.Shell

inductive Mark where
  | newline
  | semicolon
  | caseEnd
  | background
  | both
  | pipe
  | either
  | opening
  | closing
  deriving DecidableEq

def Mark.text : Mark → String
  | .newline => "newline"
  | .semicolon => "\";\""
  | .caseEnd => "\";;\""
  | .background => "\"&\""
  | .both => "\"&&\""
  | .pipe => "\"|\""
  | .either => "\"||\""
  | .opening => "\"(\""
  | .closing => "\")\""

/-- How a redirection connects a descriptor. -/
inductive Direction where
  | input
  | output
  | append
  | inputOutput
  /-- To what another descriptor, named by the word that follows, is connected to. -/
  | copy
  deriving DecidableEq

inductive Token where
  | word (w : Word)
  | mark (m : Mark)
  | redirect (descriptor : Nat) (direction : Direction)
  | document (descriptor : Nat) (body : Word)
  | bad (d : Defect)
  | finish
  deriving DecidableEq

/-- A here-document whose body is still to come. -/
structure Awaited where
  delimiter : List Char
  isLiteral : Bool
  stripsTabs : Bool

/-- The text up to the line that is the delimiter, and the lines after it. The last line of all has
no line break behind it. -/
def documentText (stripsTabs : Bool) (delimiter : List Char) :
    List (List Char) → List Char × List (List Char)
  | [] => ([], [])
  | line :: rest =>
    let line := if stripsTabs then line.dropWhile (· == '\t') else line
    if line = delimiter then ([], rest)
    else if rest = [] then (line, [])
    else
      let (body, rest) := documentText stripsTabs delimiter rest
      (line ++ '\n' :: body, rest)

def documentWord (isLiteral : Bool) (body : List Char) : Except Defect Word :=
  if isLiteral then .ok [.text body true]
  else (quotedParts .lines (body.length + 1) body).map (·.1)

/-- Reads the bodies of the here-documents that a line asked for. -/
def documents : List Awaited → List (List Char) → Except Defect (List Word × List (List Char))
  | [], lines => .ok ([], lines)
  | a :: more, lines => do
    let (body, rest) := documentText a.stripsTabs a.delimiter lines
    let w ← documentWord a.isLiteral body
    let (ws, rest) ← documents more rest
    .ok (w :: ws, rest)

/-- The mark at the front of a text, and how many characters it has. -/
def mark? : List Char → Option (Mark × Nat)
  | '\n' :: _ => some (.newline, 1)
  | ';' :: ';' :: _ => some (.caseEnd, 2)
  | ';' :: _ => some (.semicolon, 1)
  | '&' :: '&' :: _ => some (.both, 2)
  | '&' :: _ => some (.background, 1)
  | '|' :: '|' :: _ => some (.either, 2)
  | '|' :: _ => some (.pipe, 1)
  | '(' :: _ => some (.opening, 1)
  | ')' :: _ => some (.closing, 1)
  | _ => none

/-- What stands at the front of a text that begins with an angle bracket. -/
inductive Angle where
  | redirect (descriptor : Nat) (direction : Direction)
  | document (stripsTabs : Bool)

/-- The redirection at the front of a text, and how many characters it has. -/
def angle? : List Char → Option (Angle × Nat)
  | '<' :: '<' :: '-' :: _ => some (.document true, 3)
  | '<' :: '<' :: _ => some (.document false, 2)
  | '<' :: '&' :: _ => some (.redirect 0 .copy, 2)
  | '<' :: '>' :: _ => some (.redirect 0 .inputOutput, 2)
  | '<' :: _ => some (.redirect 0 .input, 1)
  | '>' :: '>' :: _ => some (.redirect 1 .append, 2)
  | '>' :: '&' :: _ => some (.redirect 1 .copy, 2)
  | '>' :: '|' :: _ => some (.redirect 1 .output, 2)
  | '>' :: _ => some (.redirect 1 .output, 1)
  | _ => none

/-- The descriptor that one digit before an angle bracket names, and the text from the bracket on.
-/
def descriptor? : List Char → Option Nat × List Char
  | c :: d :: r =>
    if c.isDigit ∧ (d = '<' ∨ d = '>') then (some (c.toNat - '0'.toNat), d :: r)
    else (none, c :: d :: r)
  | cs => (none, cs)

/-- How what stands at the front of a text is named in a complaint. -/
def opening (cs : List Char) : String :=
  match angle? cs, mark? cs with
  | some _, _ => "redirection"
  | none, some (m, _) => m.text
  | none, none => "end of file"

abbrev Tokens := List (Nat × Token)

def scan : (fuel : Nat) → (line : Nat) → List Awaited → List Char → Tokens × List Word
  | 0, line, _, _ => ([(line, .finish)], [])
  | fuel + 1, line, awaited, cs =>
    match cs with
    | [] =>
      match documents awaited [] with
      | .ok (bodies, _) => ([(line, .finish)], bodies)
      | .error d => ([(line, .bad d)], awaited.map fun _ => [])
    | ' ' :: r => scan fuel line awaited r
    | '\t' :: r => scan fuel line awaited r
    | '\\' :: '\n' :: r => scan fuel (line + 1) awaited r
    | '#' :: r => scan fuel line awaited (r.dropWhile (· ≠ '\n'))
    | '\n' :: r =>
      if awaited.isEmpty then
        let (tokens, bodies) := scan fuel (line + 1) [] r
        ((line, .mark .newline) :: tokens, bodies)
      else
        let lines := Text.pieces (· == '\n') r
        match documents awaited lines with
        | .error d => ([(line, .bad d)], awaited.map fun _ => [])
        | .ok (now, rest) =>
          let passed := lines.length - rest.length
          let (tokens, later) := scan fuel (line + 1 + passed) [] (Text.joined '\n' rest)
          ((line, .mark .newline) :: tokens, now ++ later)
    | cs =>
      let (number?, r) := descriptor? cs
      match angle? r with
      | some (.redirect standard direction, width) =>
        let (tokens, bodies) := scan fuel line awaited (r.drop width)
        ((line, .redirect (number?.getD standard) direction) :: tokens, bodies)
      | some (.document stripsTabs, width) =>
        let r := r.drop width |>.dropWhile fun c => c == ' ' || c == '\t'
        match readWord r with
        | .error d => ([(line, .bad d)], awaited.map fun _ => [])
        | .ok ([], _) => ([(line, .bad (.unexpected (opening r)))], awaited.map fun _ => [])
        | .ok (w, rest) =>
          let one : Awaited := ⟨w.unquoted, w.hasQuotes, stripsTabs⟩
          let (tokens, bodies) := scan fuel line (awaited ++ [one]) rest
          ((line, .document (number?.getD 0) []) :: tokens, bodies)
      | none =>
        match mark? cs with
        | some (m, width) =>
          let (tokens, bodies) := scan fuel line awaited (cs.drop width)
          ((line, .mark m) :: tokens, bodies)
        | none =>
          match readWord cs with
          | .error d => ([(line, .bad d)], awaited.map fun _ => [])
          | .ok (w, rest) =>
            let breaks := (cs.take (cs.length - rest.length)).count '\n'
            let (tokens, bodies) := scan fuel (line + breaks) awaited rest
            ((line, .word w) :: tokens, bodies)

def filled : Tokens → List Word → Tokens
  | (line, .document n _) :: ts, body :: bodies => (line, .document n body) :: filled ts bodies
  | t :: ts, bodies => t :: filled ts bodies
  | [], _ => []

def tokens (cs : List Char) : Tokens :=
  let (ts, bodies) := scan (cs.length + 1) 1 [] cs
  filled ts bodies

end PackageSweep.Shell
