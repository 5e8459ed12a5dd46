import PackageSweep.Text.Pieces

/-!
# Words of the shell

A word is a row of parts: text, parameters, command substitutions and arithmetic, each of them
quoted or not. What stands inside a substitution is kept as source and read when it is needed.
-/

namespace PackageSweep.Shell

/-- What becomes of the value of a parameter. -/
inductive Use where
  | plain
  | length
  /-- Another value if there is none; with a colon also for an empty one. -/
  | default (colon : Bool)
  | assign (colon : Bool)
  | require (colon : Bool)
  /-- Another value if there is one. -/
  | alternative (colon : Bool)
  /-- Without the shortest or longest beginning, or end, that fits a pattern. -/
  | withoutFront (longest : Bool)
  | withoutBack (longest : Bool)
  deriving DecidableEq

inductive Part where
  | text (cs : List Char) (isQuoted : Bool)
  | parameter (name : List Char) (use : Use) (operand : List Char) (isQuoted : Bool)
  | command (source : List Char) (isQuoted : Bool)
  | arithmetic (source : List Char) (isQuoted : Bool)
  /-- A parameter between braces that asks for nothing the shell knows. -/
  | senseless
  deriving DecidableEq

abbrev Word := List Part

def isNameStart (c : Char) : Bool := c.isAlpha || c == '_'
def isNamePart (c : Char) : Bool := c.isAlphanum || c == '_'

def isName (cs : List Char) : Bool :=
  match cs with
  | c :: r => isNameStart c && r.all isNamePart
  | [] => false

def isSpecial (c : Char) : Bool :=
  c == '@' || c == '*' || c == '#' || c == '?' || c == '-' || c == '$' || c == '!'

def parameterName? : List Char → Option (List Char × List Char)
  | [] => none
  | c :: r =>
    if isNameStart c then some (c :: r.takeWhile isNamePart, r.dropWhile isNamePart)
    else if c.isDigit then some (c :: r.takeWhile Char.isDigit, r.dropWhile Char.isDigit)
    else if isSpecial c then some ([c], r)
    else none

/-- What a scan for a closing mark is inside of. -/
inductive Inside where
  | parens
  | braces
  /-- Braces between double quotes, where a single quote is a letter like others. -/
  | quotedBraces
  | double
  | single
  | ticks
  deriving DecidableEq

def before (cs : List Char) : Option (List Char × List Char) → Option (List Char × List Char)
  | some (s, rest) => some (cs ++ s, rest)
  | none => none

/-- What a scan enters at the braces of a parameter. The pattern that a value is cut by is read as
if it stood outside quotes. -/
def Inside.atBraces (isQuoted : Bool) (cs : List Char) : Inside :=
  match parameterName? cs with
  | some (_, '#' :: _) => .braces
  | some (_, '%' :: _) => .braces
  | _ => if isQuoted then .quotedBraces else .braces

def Inside.isQuoted (i : Inside) : Bool := i == .double || i == .quotedBraces

/-- Reads up to the mark that closes the outermost of the constructs the scan is inside of. -/
def enclosed : List Inside → List Char → Option (List Char × List Char)
  | [], cs => some ([], cs)
  | _, [] => none
  | .single :: outer, c :: r =>
    if c = '\'' then (if outer = [] then some ([], r) else before [c] (enclosed outer r))
    else before [c] (enclosed (.single :: outer) r)
  | stack, '\\' :: c :: r => before ['\\', c] (enclosed stack r)
  | .ticks :: outer, c :: r =>
    if c = '\x60' then (if outer = [] then some ([], r) else before [c] (enclosed outer r))
    else before [c] (enclosed (.ticks :: outer) r)
  | top :: outer, c :: r =>
    if c = '\x60' then before [c] (enclosed (.ticks :: top :: outer) r)
    else if c = '"' then
      if top = .double then (if outer = [] then some ([], r) else before [c] (enclosed outer r))
      else before [c] (enclosed (.double :: top :: outer) r)
    else if c = '\'' ∧ !top.isQuoted then before [c] (enclosed (.single :: top :: outer) r)
    else
      match c, r with
      | '$', '(' :: r => before ['$', '('] (enclosed (.parens :: top :: outer) r)
      | '$', '\x7b' :: r =>
        before ['$', '\x7b'] (enclosed (.atBraces top.isQuoted r :: top :: outer) r)
      | c, r =>
        if (c = ')' ∧ top = .parens) ∨
            (c = '\x7d' ∧ (top = .braces ∨ top = .quotedBraces)) then
          if outer = [] then some ([], r) else before [c] (enclosed outer r)
        else if c = '(' ∧ top = .parens then
          before [c] (enclosed (.parens :: top :: outer) r)
        else before [c] (enclosed (top :: outer) r)

def use? : List Char → Option (Use × List Char)
  | [] => some (.plain, [])
  | ':' :: '-' :: r => some (.default true, r)
  | ':' :: '=' :: r => some (.assign true, r)
  | ':' :: '?' :: r => some (.require true, r)
  | ':' :: '+' :: r => some (.alternative true, r)
  | '-' :: r => some (.default false, r)
  | '=' :: r => some (.assign false, r)
  | '?' :: r => some (.require false, r)
  | '+' :: r => some (.alternative false, r)
  | '#' :: '#' :: r => some (.withoutFront true, r)
  | '#' :: r => some (.withoutFront false, r)
  | '%' :: '%' :: r => some (.withoutBack true, r)
  | '%' :: r => some (.withoutBack false, r)
  | _ => none

def braced? (isQuoted : Bool) (cs : List Char) : Option Part :=
  let whole := do
    let (name, r) ← parameterName? cs
    let (use, operand) ← use? r
    some (.parameter name use operand isQuoted)
  match cs with
  | '#' :: c :: r =>
    match parameterName? (c :: r) with
    | some (name, []) => some (.parameter name .length [] isQuoted)
    | _ => whole
  | _ => whole

/-- The body of arithmetic, if a substitution in parentheses holds nothing but it. -/
def arithmetic? (source : List Char) : Option (List Char) :=
  match source with
  | '(' :: r =>
    match enclosed [.parens] r with
    | some (inner, []) => some inner
    | _ => none
  | _ => none

/-- Why a text is no command. -/
inductive Defect where
  | openQuote
  | openBackquote
  | openBrace
  | badLoopName
  | badFunctionName
  | unexpected (what : String)
  | missing (what : String) (wanted : String)
  deriving DecidableEq

def Defect.text : Defect → String
  | .openQuote => "Unterminated quoted string"
  | .openBackquote => "EOF in backquote substitution"
  | .openBrace => "Missing '\x7d'"
  | .badLoopName => "Bad for loop variable"
  | .badFunctionName => "Bad function name"
  | .unexpected what => what ++ " unexpected"
  | .missing what wanted => what ++ " unexpected (expecting " ++ wanted ++ ")"

/-- Reads what follows a dollar sign. A dollar sign before nothing special stands for itself. -/
def dollar (isQuoted : Bool) (cs : List Char) : Except Defect (Part × List Char) :=
  match cs with
  | '(' :: r =>
    match enclosed [.parens] r with
    | none => .error (.missing "end of file" "\")\"")
    | some (source, rest) =>
      match arithmetic? source with
      | some inner => .ok (.arithmetic inner isQuoted, rest)
      | none => .ok (.command source isQuoted, rest)
  | '\x7b' :: r =>
    match enclosed [.atBraces isQuoted r] r with
    | none => .error .openBrace
    | some (inner, rest) => .ok ((braced? isQuoted inner).getD .senseless, rest)
  | c :: r =>
    if isNameStart c then
      .ok (.parameter (c :: r.takeWhile isNamePart) .plain [] isQuoted, r.dropWhile isNamePart)
    else if c.isDigit || isSpecial c then .ok (.parameter [c] .plain [] isQuoted, r)
    else .ok (.text ['$'] isQuoted, cs)
  | [] => .ok (.text ['$'] isQuoted, [])

/-- The source between backticks, where a backslash only guards itself, a backtick and a dollar. -/
def tickSource : List Char → List Char
  | '\\' :: c :: r =>
    if c = '\\' ∨ c = '\x60' ∨ c = '$' then c :: tickSource r else '\\' :: tickSource (c :: r)
  | c :: r => c :: tickSource r
  | [] => []
termination_by cs => cs.length

def ticks (isQuoted : Bool) (cs : List Char) : Except Defect (Part × List Char) :=
  match enclosed [.ticks] cs with
  | some (source, rest) => .ok (.command (tickSource source) isQuoted, rest)
  | none => .error .openBackquote

def Part.onto (p : Part) (w : Word) : Word :=
  match p, w with
  | .text cs q, .text ds q' :: rest => if q = q' then .text (cs ++ ds) q :: rest else p :: w
  | _, _ => p :: w

/-- Where text stands that is read as if between double quotes. -/
inductive Between where
  /-- Between two double quotes, the second of which ends it. -/
  | quotes
  /-- In the body of a here-document or in arithmetic, where a double quote is a letter like others.
  -/
  | lines
  /-- In an operand, where a double quote says nothing new. -/
  | braces
  deriving DecidableEq

def Between.guards (b : Between) (c : Char) : Bool :=
  c == '$' || c == '\x60' || c == '\\' || (c == '"' && b != .lines) || (c == '\x7d' && b == .braces)

/-- Reads text with substitutions up to the closing quote, or to the end if there is none to come.
-/
def quotedParts (between : Between) : (fuel : Nat) → List Char →
    Except Defect (Word × List Char)
  | 0, _ => .error .openQuote
  | fuel + 1, cs =>
    match cs with
    | [] => if between = .quotes then .error .openQuote else .ok ([], [])
    | '\\' :: '\n' :: r => quotedParts between fuel r
    | '\\' :: c :: r =>
      let kept := if between.guards c then [c] else ['\\', c]
      (quotedParts between fuel r).map fun (w, rest) => ((Part.text kept true).onto w, rest)
    | '$' :: r =>
      match dollar true r with
      | .error e => .error e
      | .ok (p, r) => (quotedParts between fuel r).map fun (w, rest) => (p.onto w, rest)
    | '\x60' :: r =>
      match ticks true r with
      | .error e => .error e
      | .ok (p, r) => (quotedParts between fuel r).map fun (w, rest) => (p.onto w, rest)
    | c :: r =>
      if c = '"' ∧ between = .quotes then .ok ([], r)
      else if c = '"' ∧ between = .braces then quotedParts between fuel r
      else (quotedParts between fuel r).map fun (w, rest) => ((Part.text [c] true).onto w, rest)

def endsWord (c : Char) : Bool :=
  c == ' ' || c == '\t' || c == '\n' || c == ';' || c == '&' || c == '|' || c == '<' || c == '>' ||
    c == '(' || c == ')'

/-- Reads a word. With `wholly` it extends to the end of the text. -/
def wordParts (wholly : Bool) : (fuel : Nat) → List Char → Except Defect (Word × List Char)
  | 0, _ => .error .openQuote
  | fuel + 1, cs =>
    match cs with
    | [] => .ok ([], [])
    | '\\' :: '\n' :: r => wordParts wholly fuel r
    | '\\' :: c :: r =>
      (wordParts wholly fuel r).map fun (w, rest) => ((Part.text [c] true).onto w, rest)
    | '\'' :: r =>
      match enclosed [.single] r with
      | none => .error .openQuote
      | some (s, r) =>
        (wordParts wholly fuel r).map fun (w, rest) => ((Part.text s true).onto w, rest)
    | '"' :: r =>
      match quotedParts .quotes fuel r with
      | .error e => .error e
      | .ok (inner, r) =>
        let inner := if inner = [] then [Part.text [] true] else inner
        (wordParts wholly fuel r).map fun (w, rest) => (inner.foldr Part.onto w, rest)
    | '$' :: r =>
      match dollar false r with
      | .error e => .error e
      | .ok (p, r) => (wordParts wholly fuel r).map fun (w, rest) => (p.onto w, rest)
    | '\x60' :: r =>
      match ticks false r with
      | .error e => .error e
      | .ok (p, r) => (wordParts wholly fuel r).map fun (w, rest) => (p.onto w, rest)
    | c :: r =>
      if endsWord c && !wholly then .ok ([], cs)
      else (wordParts wholly fuel r).map fun (w, rest) => ((Part.text [c] false).onto w, rest)

def readWord (cs : List Char) : Except Defect (Word × List Char) :=
  wordParts false (cs.length + 1) cs

def wholeWord (cs : List Char) : Except Defect Word :=
  (wordParts true (cs.length + 1) cs).map (·.1)

def Word.bare? : Word → Option (List Char)
  | [.text cs false] => some cs
  | _ => none

def Word.hasQuotes (w : Word) : Bool :=
  w.any fun
    | .text _ isQuoted => isQuoted
    | _ => false

def Word.unquoted (w : Word) : List Char :=
  w.flatMap fun
    | .text cs _ => cs
    | _ => []

end PackageSweep.Shell
