/-!
# The grammar of command lines

A command line is options, followed by a command if the program takes one. It is read by these
conventions:

* A long option is two dashes and its whole name. Its value stands behind an equals sign, or is the
  next argument. A switch has no value.
* A short option is a dash and a letter. Letters may be written together; behind one that takes a
  value the other letters are the value, with or without an equals sign in front.
* No option is given twice, and no value is empty. A request for help ends the reading.
* An argument that is an option of the program is never the value of another one.
* Two dashes alone end the options.
* A program that takes a command must be given one. The first argument that is no option of the
  program begins it, with or without dashes, and from there on every argument belongs to it as it
  is. A program that takes none refuses whatever is no option.

An option with a value is settled when the next option, the command or the end comes. Only then a
value that is missing or empty is noticed, or an option that is given twice. What this comes to for
each spelling of an option is proved in `Proofs.Arguments.Grammar`.
-/

namespace PackageSweep.Arguments

/-- The options that a program may have. -/
inductive Setting where
  | help
  | root
  | config
  | dryRun
  | verbose
  | jsonLogs
  | json
  deriving DecidableEq

namespace Setting

def long : Setting → String
  | .help => "help"
  | .root => "root"
  | .config => "config"
  | .dryRun => "dry-run"
  | .verbose => "verbose"
  | .jsonLogs => "json-logs"
  | .json => "json"

def letter? : Setting → Option Char
  | .help => some 'h'
  | .config => some 'c'
  | .verbose => some 'v'
  | _ => none

def takesValue : Setting → Bool
  | .root => true
  | .config => true
  | _ => false

end Setting

/-- Which options a program has, and whether it takes a command. -/
structure Grammar where
  settings : List Setting
  takesCommand : Bool

/-- What is wrong with a command line, or that it asks for help. -/
inductive ArgumentFault where
  | help
  | missingCommand
  | badValue
  | givenTwice
  | needlessValue
  | unknown
  deriving DecidableEq

def ArgumentFault.exitCode : ArgumentFault → Int
  | .help => 0
  | _ => 2

/-- The options as they are settled so far. -/
structure Options where
  root : Option String := none
  config : Option String := none
  dryRun : Bool := false
  verbose : Bool := false
  jsonLogs : Bool := false
  json : Bool := false
  deriving DecidableEq

namespace Options

def has (o : Options) : Setting → Bool
  | .help => false
  | .root => o.root.isSome
  | .config => o.config.isSome
  | .dryRun => o.dryRun
  | .verbose => o.verbose
  | .jsonLogs => o.jsonLogs
  | .json => o.json

/-- Records an option. The value counts for those that take one. -/
def record (k : Setting) (value : String) (o : Options) : Options :=
  match k with
  | .help => o
  | .root => { o with root := some value }
  | .config => { o with config := some value }
  | .dryRun => { o with dryRun := true }
  | .verbose => { o with verbose := true }
  | .jsonLogs => { o with jsonLogs := true }
  | .json => { o with json := true }

end Options

/-- The options settled so far, and one that waits for its value or has just got it. -/
structure State where
  options : Options := {}
  waiting : Option (Setting × Option String) := none

namespace State

def supply (k : Setting) (value : String) (o : Options) : Except ArgumentFault Options :=
  if o.has k then .error .givenTwice
  else if value.isEmpty then .error .badValue
  else .ok (o.record k value)

def settle (s : State) : Except ArgumentFault Options :=
  match s.waiting with
  | none => .ok s.options
  | some (_, none) => .error .badValue
  | some (k, some value) => supply k value s.options

def expect (k : Setting) (s : State) : Except ArgumentFault State :=
  s.settle.map fun o => ⟨o, some (k, none)⟩

def give (k : Setting) (value : String) (s : State) : Except ArgumentFault State :=
  s.settle.bind fun o => (supply k value o).map fun o => ⟨o, none⟩

def raise (k : Setting) (s : State) : Except ArgumentFault State :=
  s.settle.bind fun o =>
    if k = .help then .error .help
    else if o.has k then .error .givenTwice
    else .ok ⟨o.record k "", none⟩

end State

/-- How an argument looks, before anything is known about it. -/
inductive Shape where
  | dashes
  | long (name : List Char) (value : Option (List Char))
  | letters (cs : List Char)
  | word

def afterEquals : List Char → Option (List Char)
  | [] => none
  | _ :: value => some value

def Shape.of : List Char → Shape
  | ['-', '-'] => .dashes
  | '-' :: '-' :: cs => .long (cs.takeWhile (· != '=')) (afterEquals (cs.dropWhile (· != '=')))
  | ['-'] => .word
  | '-' :: cs => .letters cs
  | _ => .word

namespace Grammar

def byName? (g : Grammar) (name : List Char) : Option Setting :=
  g.settings.find? fun k => k.long.toList == name

def byLetter? (g : Grammar) (c : Char) : Option Setting :=
  g.settings.find? fun k => k.letter? == some c

/-- Takes letters written together. The first one with a value has the other letters as its value,
without an equals sign before them, or waits for the next argument. -/
def takeLetters (g : Grammar) : State → List Char → Except ArgumentFault State
  | s, [] => .ok s
  | s, c :: cs =>
    match g.byLetter? c with
    | none => .error .unknown
    | some k =>
      if k.takesValue then
        match cs with
        | [] => s.expect k
        | '=' :: value => s.give k (String.ofList value)
        | value => s.give k (String.ofList value)
      else (s.raise k).bind (g.takeLetters · cs)

def takeLong (s : State) (k : Setting) (value : Option (List Char)) :
    Except ArgumentFault State :=
  match k.takesValue, value with
  | true, none => s.expect k
  | true, some value => s.give k (String.ofList value)
  | false, none => s.raise k
  | false, some _ => .error .needlessValue

/-- What an argument does as an option, or nothing if it is none. A program that takes a command
leaves to it whatever it does not know. -/
def option? (g : Grammar) (s : State) : Shape → Option (Except ArgumentFault State)
  | .long name value =>
    match g.byName? name with
    | some k => some (takeLong s k value)
    | none => if g.takesCommand then none else some (.error .unknown)
  | .letters cs =>
    if g.takesCommand && !cs.all (fun c => (g.byLetter? c).isSome) then none
    else some (g.takeLetters s cs)
  | _ => none

/-- The end of the options: the waiting one is settled, and the rest is the command. -/
def finish (g : Grammar) (s : State) (rest : List String) :
    Except ArgumentFault (Options × List String) :=
  s.settle.bind fun o =>
    if g.takesCommand then (if rest = [] then .error .missingCommand else .ok (o, rest))
    else (if rest = [] then .ok (o, []) else .error .unknown)

def readFrom (g : Grammar) : State → List String → Except ArgumentFault (Options × List String)
  | s, [] => g.finish s []
  | s, a :: as =>
    match Shape.of a.toList with
    | .dashes => g.finish s as
    | shape =>
      match g.option? s shape with
      | some result => result.bind (g.readFrom · as)
      | none =>
        match s.waiting with
        | some (k, none) => g.readFrom ⟨s.options, some (k, some a)⟩ as
        | _ => g.finish s (a :: as)

/-- Reads a command line: the options, and the command after them. -/
def read (g : Grammar) (args : List String) : Except ArgumentFault (Options × List String) :=
  g.readFrom {} args

end Grammar

end PackageSweep.Arguments
