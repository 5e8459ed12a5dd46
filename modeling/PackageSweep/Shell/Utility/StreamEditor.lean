import PackageSweep.Shell.Utility.Expression
import PackageSweep.Shell.Utility.Files

/-!
# Editing streams

A script of commands is applied to each line. A command may be limited to some lines. It replaces
what an expression matches, drops the line, or shows it once more.
-/

namespace PackageSweep.Shell.Utility

/-- The lines that a command is limited to. -/
inductive Scope where
  | all
  | number (n : Nat)
  | last
  | matching (e : Expression)

inductive Change where
  | replace (e : Expression) (other : Bytes) (isGlobal shows : Bool)
  | drop
  | showLine
  | quit

structure EditCommand where
  scope : Scope
  change : Change

/-- The text up to a mark that no backslash guards, and what follows it. -/
def upTo (mark : UInt8) : Bytes → Option (Bytes × Bytes)
  | [] => none
  | [b] => if b = mark then some ([], []) else none
  | b :: c :: r =>
    if b = mark then some ([], c :: r)
    else if b = byteOf '\\' then
      (upTo mark r).map fun (x, rest) => (if c = mark then c :: x else b :: c :: x, rest)
    else (upTo mark (c :: r)).map fun (x, rest) => (b :: x, rest)

def scope? (bs : Bytes) : Option (Scope × Bytes) :=
  match bs with
  | [] => none
  | b :: r =>
    if b = byteOf '$' then some (.last, r)
    else if b = byteOf '/' then
      (upTo b r).map fun (e, rest) => (.matching (Expression.read e), rest)
    else
      let digits := bs.takeWhile fun b => byteOf '0' ≤ b && b ≤ byteOf '9'
      match count? digits with
      | some n => some (.number n, bs.drop digits.length)
      | none => some (.all, bs)

def editCommand? (bs : Bytes) : Option EditCommand := do
  let blank (b : UInt8) : Bool := b == byteOf ' ' || b == byteOf '\t'
  let (scope, r) ← scope? (bs.dropWhile blank)
  match r.dropWhile blank with
  | c :: r =>
    if c = byteOf 's' then
      match r with
      | mark :: r => do
        let (e, r) ← upTo mark r
        let (other, flags) ← upTo mark r
        some ⟨scope, .replace (Expression.read e) other (flags.contains (byteOf 'g'))
          (flags.contains (byteOf 'p'))⟩
      | [] => none
    else if c = byteOf 'd' then some ⟨scope, .drop⟩
    else if c = byteOf 'p' then some ⟨scope, .showLine⟩
    else if c = byteOf 'q' then some ⟨scope, .quit⟩
    else none
  | [] => none

def Scope.holds (s : Scope) (number : Nat) (isLast : Bool) (line : Bytes) : Bool :=
  match s with
  | .all => true
  | .number n => n == number
  | .last => isLast
  | .matching e => e.fits line

/-- What takes the place of a match. An ampersand stands for the match itself. -/
def replacement (found : Bytes) : Bytes → Bytes
  | [] => []
  | [b] => if b = byteOf '&' then found else [b]
  | b :: c :: r =>
    if b = byteOf '&' then found ++ replacement found (c :: r)
    else if b = byteOf '\\' then
      (if c = byteOf 'n' then byteOf '\n' else c) :: replacement found r
    else b :: replacement found (c :: r)

def replaced (e : Expression) (other : Bytes) (isGlobal : Bool) : (fuel : Nat) → (isStart : Bool) →
    Bytes → Bytes
  | 0, _, bs => bs
  | fuel + 1, isStart, bs =>
    match (if e.isAnchored && !isStart then none else e.longest? bs) with
    | some n =>
      let now := replacement (bs.take n) other
      if !isGlobal then now ++ bs.drop n
      else if n = 0 then
        match bs with
        | b :: r => now ++ b :: replaced e other isGlobal fuel false r
        | [] => now
      else if bs.length = n then now
      else now ++ replaced e other isGlobal fuel false (bs.drop n)
    | none =>
      match bs with
      | b :: r => b :: replaced e other isGlobal fuel false r
      | [] => []

/-- A line on its way through the commands. -/
structure Edited where
  line : Bytes
  shown : List Bytes := []
  isDropped : Bool := false
  stops : Bool := false

def Edited.apply (number : Nat) (isLast : Bool) (d : Edited) (k : EditCommand) : Edited :=
  if d.isDropped || d.stops || !k.scope.holds number isLast d.line then d
  else
    match k.change with
    | .replace e other isGlobal shows =>
      let line := replaced e other isGlobal (d.line.length + 1) true d.line
      { d with line, shown := if shows && line != d.line then d.shown ++ [line] else d.shown }
    | .drop => { d with isDropped := true }
    | .showLine => { d with shown := d.shown ++ [d.line] }
    | .quit => { d with stops := true }

def edited (isQuiet : Bool) (script : List EditCommand) : (number : Nat) → List Bytes → Bytes
  | _, [] => []
  | number, l :: ls =>
    let hasBreak := l.getLast? = some (byteOf '\n')
    let line := if hasBreak then l.dropLast else l
    let d := script.foldl (Edited.apply number ls.isEmpty) { line }
    let out := d.shown ++ if d.isDropped || isQuiet then [] else [d.line]
    let bs := if hasBreak || ls ≠ [] then ofLines out
      else joinedWith [byteOf '\n'] out
    bs ++ if d.stops then [] else edited isQuiet script (number + 1) ls

/-- The script and the operands, from an option or from the first operand. -/
def scriptOf (p : Parsed) : Option (Bytes × List Bytes) :=
  match p.value? 'e', p.operands with
  | some e, os => some (e, os)
  | none, o :: os => some (o, os)
  | none, [] => none

def editCommands? (script : Bytes) : Option (List EditCommand) :=
  ((bareLines script).flatMap (piecesAt (byteOf ';')) |>.filter (· ≠ [])).mapM editCommand?

def sed : Utility := withOptions "nErsui" "e" fun p c =>
  match scriptOf p with
  | none => c.misused (ascii "no script specified")
  | some (script, operands) =>
    let missing (o why : Bytes) : Bytes := ascii "can't read " ++ o ++ ascii ": " ++ why
    match editCommands? script with
    | none =>
      { status := 1
        written := c.reports (ascii "-e expression #1, char 1: unknown command: " ++
          inQuotes (script.take 1))
        world := c.world }
    | some commands =>
      if p.has 'i' then
        throughOperands (fun o w =>
          match w.find (nameText o) with
          | .ok (_, .file bs) =>
            outcome c (ascii "couldn't edit " ++ o) w
              (w.writeFile (nameText o) (edited (p.has 'n') commands 1 (lines bs)))
          | .ok (_, .sealed e) => (w, c.reports (missing o (reason e)), false)
          | .ok _ =>
            (w, c.reports (ascii "couldn't edit " ++ o ++ ascii ": not a regular file"), false)
          | .error e => (w, c.reports (missing o (reason e)), false)) operands c
      else
        onContents missing (fun found =>
          [.out (edited (p.has 'n') commands 1 (lines (found.flatMap (·.2))))]) operands 1 c

end PackageSweep.Shell.Utility
