import PackageSweep.Shell.Token

/-!
# Commands of the shell

A command is a tree. The shell reads and executes one complete command at a time, so that what comes
before a defect is still executed: a script is the complete commands of a text in order, and the
defect that ends them, if there is one.
-/

namespace PackageSweep.Shell

/-- What a descriptor is connected to. -/
inductive Target where
  | path (direction : Direction) (name : Word)
  | document (body : Word)
  deriving DecidableEq

structure Redirect where
  descriptor : Nat
  target : Target
  deriving DecidableEq

inductive Node where
  | simple (line : Nat) (assignments : List (List Char × Word)) (words : List Word)
      (redirects : List Redirect)
  | pipeline (stages : List Node)
  | negation (n : Node)
  | both (first second : Node)
  | either (first second : Node)
  | series (first second : Node)
  | background (n : Node)
  | redirected (n : Node) (redirects : List Redirect)
  | subshell (n : Node)
  | branch (test body otherwise : Node)
  /-- Repeats its body as long as its test has the wanted outcome. -/
  | loop (wanted : Bool) (test body : Node)
  | each (name : List Char) (words : Option (List Word)) (body : Node)
  | choose (subject : Word) (arms : List (List Word × Node))
  | define (name : List Char) (body : Node)
  | nothing

/-- What is wrong with a text, and in which line. -/
structure Complaint where
  line : Nat
  defect : Defect
  deriving DecidableEq

abbrev Reading := StateT Tokens (Except Complaint)

namespace Reading

def peek : Reading (Nat × Token) := do
  match ← get with
  | t :: _ => pure t
  | [] => pure (0, .finish)

/-- Steps over the token at the front. Nothing steps over the end. -/
def step : Reading Unit :=
  modify fun
    | [(line, .finish)] => [(line, .finish)]
    | _ :: ts => ts
    | [] => []

def reserved : List String :=
  ["!", "case", "do", "done", "elif", "else", "esac", "fi", "for", "if", "in", "then", "until",
    "while", "\x7b", "\x7d"]

def closers : List String := ["do", "done", "elif", "else", "esac", "fi", "then", "\x7d"]

def keyword? (t : Token) : Option String :=
  match t with
  | .word w =>
    match w.bare? with
    | some cs => if reserved.contains (String.ofList cs) then some (String.ofList cs) else none
    | none => none
  | _ => none

def quoted (s : String) : String := "\"" ++ s ++ "\""

def name (asKeyword : Bool) (t : Token) : String :=
  match t with
  | .word _ => if asKeyword then (keyword? t).elim "word" quoted else "word"
  | .mark m => Mark.text m
  | .redirect _ _ => "redirection"
  | .document _ _ => "redirection"
  | .bad _ => ""
  | .finish => "end of file"

def unexpected (wanted? : Option String) (asKeyword : Bool := true) : Reading α := do
  match ← peek with
  | (line, .bad d) => throw ⟨line, d⟩
  | (line, t) =>
    match wanted? with
    | some wanted => throw ⟨line, .missing (name asKeyword t) wanted⟩
    | none => throw ⟨line, .unexpected (name asKeyword t)⟩

def lineBreaks : Reading Unit :=
  modify fun ts =>
    ts.dropWhile fun
      | (_, .mark .newline) => true
      | _ => false

def expectKeyword (word : String) : Reading Unit := do
  if keyword? (← peek).2 = some word then step else unexpected (some (quoted word))

def expectMark (m : Mark) : Reading Unit := do
  if (← peek).2 = .mark m then step else unexpected (some (Mark.text m))

def redirect? : Reading (Option Redirect) := do
  match (← peek).2 with
  | .document n body => do
    step
    pure (some ⟨n, .document body⟩)
  | .redirect n direction => do
    step
    match (← peek).2 with
    | .word w => do
      step
      pure (some ⟨n, .path direction w⟩)
    | _ => unexpected none
  | _ => pure none

def redirects : (fuel : Nat) → Reading (List Redirect)
  | 0 => pure []
  | fuel + 1 => do
    match ← redirect? with
    | none => pure []
    | some r => do pure (r :: (← redirects fuel))

def assignment? (w : Word) : Option (List Char × Word) :=
  match w with
  | .text cs false :: rest =>
    let name := cs.takeWhile (· ≠ '=')
    match cs.dropWhile (· ≠ '=') with
    | _ :: value =>
      if isName name then
        some (name, if value = [] then rest else .text value false :: rest)
      else none
    | [] => none
  | _ => none

/-- The words and redirections of a simple command. -/
structure Gathered where
  assignments : List (List Char × Word) := []
  words : List Word := []
  redirects : List Redirect := []

def gather : (fuel : Nat) → Gathered → Reading Gathered
  | 0, g => pure g
  | fuel + 1, g => do
    match ← redirect? with
    | some r => gather fuel { g with redirects := g.redirects ++ [r] }
    | none =>
      match (← peek).2 with
      | .word w => do
        step
        match g.words, assignment? w with
        | [], some a => gather fuel { g with assignments := g.assignments ++ [a] }
        | _, _ => gather fuel { g with words := g.words ++ [w] }
      | .bad _ => unexpected none
      | _ => pure g

def wordList : (fuel : Nat) → Reading (List Word)
  | 0 => pure []
  | fuel + 1 => do
    match (← peek).2 with
    | .word w => do
      step
      pure (w :: (← wordList fuel))
    | _ => pure []

def patterns : (fuel : Nat) → Reading (List Word)
  | 0 => unexpected none
  | fuel + 1 => do
    match (← peek).2 with
    | .word w => do
      step
      if (← peek).2 = .mark .pipe then do
        step
        pure (w :: (← patterns fuel))
      else do
        expectMark .closing
        pure [w]
    | _ => unexpected none

def closes (t : Token) : Bool :=
  match t with
  | .mark .closing => true
  | .mark .caseEnd => true
  | .finish => true
  | t => (keyword? t).any closers.contains

/-- How the commands of a list may be separated. -/
inductive Layout where
  /-- A line break ends the list. -/
  | oneLine
  /-- The list goes on over line breaks and has at least one command. -/
  | block
  /-- The list goes on over line breaks and may be empty. -/
  | arm
  deriving DecidableEq

def inRow : Node → Node → Node
  | .nothing, n => n
  | n, .nothing => n
  | a, b => .series a b

mutual

def list : (fuel : Nat) → Layout → Reading Node
  | 0, _ => unexpected none
  | fuel + 1, layout => do
    if layout ≠ .oneLine then lineBreaks
    let t := (← peek).2
    if t = .finish ∨ (layout = .oneLine ∧ t = .mark .newline) then pure .nothing
    else if layout = .arm ∧ closes t then pure .nothing
    else
      let one ← andOr fuel
      let further := if layout = .block then .arm else layout
      match (← peek).2 with
      | .mark .background => do
        step
        pure (inRow (.background one) (← list fuel further))
      | .mark .semicolon => do
        step
        pure (inRow one (← list fuel further))
      | .mark .newline => pure (inRow one (← list fuel further))
      | .finish => pure one
      | _ => if layout = .oneLine then unexpected none else pure one

def andOr : (fuel : Nat) → Reading Node
  | 0 => unexpected none
  | fuel + 1 => do joined fuel (← pipeline fuel)

def joined : (fuel : Nat) → Node → Reading Node
  | 0, n => pure n
  | fuel + 1, n => do
    match (← peek).2 with
    | .mark .both => do
      step
      lineBreaks
      joined fuel (.both n (← pipeline fuel))
    | .mark .either => do
      step
      lineBreaks
      joined fuel (.either n (← pipeline fuel))
    | _ => pure n

def pipeline : (fuel : Nat) → Reading Node
  | 0 => unexpected none
  | fuel + 1 => do
    if keyword? (← peek).2 = some "!" then do
      step
      pure (.negation (← stages fuel))
    else stages fuel

def stages : (fuel : Nat) → Reading Node
  | 0 => unexpected none
  | fuel + 1 => do
    let first ← command fuel
    if (← peek).2 = .mark .pipe then do
      step
      lineBreaks
      match ← stages fuel with
      | .pipeline rest => pure (.pipeline (first :: rest))
      | n => pure (.pipeline [first, n])
    else pure first

def command : (fuel : Nat) → Reading Node
  | 0 => unexpected none
  | fuel + 1 => do
    let (_, t) ← peek
    match t with
    | .mark .opening => do
      step
      let body ← list fuel .block
      expectMark .closing
      withRedirects fuel (.subshell body)
    | .word _ =>
      match keyword? t with
      | none => simple fuel
      | some "if" => do
        step
        let n ← arms fuel
        withRedirects fuel n
      | some "while" => do
        step
        let test ← list fuel .block
        let body ← doBlock fuel
        withRedirects fuel (.loop true test body)
      | some "until" => do
        step
        let test ← list fuel .block
        let body ← doBlock fuel
        withRedirects fuel (.loop false test body)
      | some "for" => do
        step
        let n ← forLoop fuel
        withRedirects fuel n
      | some "case" => do
        step
        let n ← choice fuel
        withRedirects fuel n
      | some "\x7b" => do
        step
        let body ← list fuel .block
        expectKeyword "\x7d"
        withRedirects fuel body
      | some _ => unexpected none
    | .redirect _ _ => simple fuel
    | .document _ _ => simple fuel
    | _ => unexpected none

def withRedirects : (fuel : Nat) → Node → Reading Node
  | 0, n => pure n
  | fuel + 1, n => do
    match ← redirects fuel with
    | [] => pure n
    | rs => pure (.redirected n rs)

def doBlock : (fuel : Nat) → Reading Node
  | 0 => unexpected none
  | fuel + 1 => do
    expectKeyword "do"
    let body ← list fuel .block
    expectKeyword "done"
    pure body

def arms : (fuel : Nat) → Reading Node
  | 0 => unexpected none
  | fuel + 1 => do
    let test ← list fuel .block
    expectKeyword "then"
    let body ← list fuel .block
    match keyword? (← peek).2 with
    | some "elif" => do
      step
      pure (.branch test body (← arms fuel))
    | some "else" => do
      step
      let otherwise ← list fuel .block
      expectKeyword "fi"
      pure (.branch test body otherwise)
    | _ => do
      expectKeyword "fi"
      pure (.branch test body .nothing)

def forLoop : (fuel : Nat) → Reading Node
  | 0 => unexpected none
  | fuel + 1 => do
    let (line, t) ← peek
    let name := match t with
      | .word w => (w.bare?.filter isName).getD []
      | _ => []
    if name = [] then throw ⟨line, .badLoopName⟩
    step
    let ts ← get
    lineBreaks
    if keyword? (← peek).2 = some "in" then do
      step
      let words ← wordList fuel
      match (← peek).2 with
      | .mark .newline => step
      | .mark .semicolon => step
      | _ => unexpected none false
      lineBreaks
      pure (.each name (some words) (← doBlock fuel))
    else do
      set ts
      if (← peek).2 = .mark .semicolon then step
      lineBreaks
      pure (.each name none (← doBlock fuel))

def choice : (fuel : Nat) → Reading Node
  | 0 => unexpected none
  | fuel + 1 => do
    match (← peek).2 with
    | .word subject => do
      step
      lineBreaks
      expectKeyword "in"
      pure (.choose subject (← choiceArms fuel))
    | _ => unexpected (some "word") false

def choiceArms : (fuel : Nat) → Reading (List (List Word × Node))
  | 0 => unexpected none
  | fuel + 1 => do
    lineBreaks
    if keyword? (← peek).2 = some "esac" then do
      step
      pure []
    else do
      if (← peek).2 = .mark .opening then step
      let ps ← patterns fuel
      let body ← list fuel .arm
      lineBreaks
      if (← peek).2 = .mark .caseEnd then do
        step
        pure ((ps, body) :: (← choiceArms fuel))
      else do
        if keyword? (← peek).2 = some "esac" then step else unexpected (some "\";;\"")
        pure [(ps, body)]

def simple : (fuel : Nat) → Reading Node
  | 0 => unexpected none
  | fuel + 1 => do
    let (line, _) ← peek
    let g ← gather (← get).length {}
    if (← peek).2 = .mark .opening then
      match g.assignments, g.words, g.redirects with
      | [], [w], [] => do
        step
        if (← peek).2 = .mark .closing then step
        else unexpected (some "\")\"") false
        match w.bare?.filter isName with
        | none => throw ⟨line, .badFunctionName⟩
        | some name => do
          lineBreaks
          pure (.define name (← command fuel))
      | _, _, _ => unexpected none
    else pure (.simple line g.assignments g.words g.redirects)

end

end Reading

/-- The commands of a text in order, and the defect that ends them. -/
structure Script where
  commands : List Node
  complaint : Option Complaint

def Script.ofTokens : (fuel : Nat) → Tokens → Script
  | 0, _ => ⟨[], none⟩
  | fuel + 1, ts =>
    match ts with
    | [] => ⟨[], none⟩
    | (_, .finish) :: _ => ⟨[], none⟩
    | (_, .mark .newline) :: rest => Script.ofTokens fuel rest
    | ts =>
      match (Reading.list (8 * ts.length + 8) .oneLine).run ts with
      | .error complaint => ⟨[], some complaint⟩
      | .ok (n, rest) =>
        let later := Script.ofTokens fuel rest
        ⟨n :: later.commands, later.complaint⟩

def Script.ofText (cs : List Char) : Script :=
  let ts := tokens cs
  Script.ofTokens (ts.length + 1) ts

end PackageSweep.Shell
