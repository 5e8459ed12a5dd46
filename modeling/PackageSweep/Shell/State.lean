import PackageSweep.Stream
import PackageSweep.Shell.Node
import PackageSweep.Shell.Pattern
import PackageSweep.World.Edit

/-!
# The state of a shell

A shell works on a world, holds variables and functions, and has descriptors that are connected to
streams, pipes and files. Several descriptors may share a connection and then share its position. An
action changes the state and may stop what the shell is doing.
-/

namespace PackageSweep.Shell

/-- What stands at the other end of a descriptor. -/
inductive Connection where
  | output
  | errors
  /-- A pipe or a document, with the bytes that are still to be read. -/
  | pipe (waiting : Bytes)
  | file (place : Place) (position : Nat) (appends : Bool)
  /-- Takes anything and holds nothing. -/
  | sink
  deriving DecidableEq

/-- What a name is bound to. -/
structure Binding where
  value : Option Bytes
  isExported : Bool := false
  isReadOnly : Bool := false
  deriving DecidableEq

/-- The options that change how commands are executed. -/
structure Options where
  stopsOnFailure : Bool := false
  refusesUnset : Bool := false
  takesPatternsLiterally : Bool := false
  showsCommands : Bool := false

structure State where
  world : World
  /-- The name under which the shell complains. -/
  name : Bytes
  arguments : List Bytes := []
  bindings : List (String × Binding) := []
  functions : List (List Char × Node) := []
  status : Nat := 0
  /-- The status of the last command substitution of the command at hand. -/
  substituted : Option Nat := none
  /-- The shell that the text was given to, and the process that executes it now. -/
  shell : Nat
  process : Nat
  nextProcess : Nat
  lastBackground : Option Nat := none
  jobs : List (Nat × Nat) := []
  descriptors : List (Nat × Nat) := [(0, 0), (1, 1), (2, 2)]
  connections : List (Nat × Connection) := [(0, .pipe []), (1, .output), (2, .errors)]
  options : Options := {}
  /-- Commands to be executed on a signal; zero stands for the end of the shell. -/
  traps : List (Nat × Bytes) := []
  caught : List Bytes := []
  /-- What local variables hide, for each function that is being executed. -/
  hidden : List (List (String × Option Binding)) := []
  /-- How many loops of the function at hand are being executed. -/
  loops : Nat := 0
  line : Nat := 1
  written : List Writing := []

/-- Why an action stopped. -/
inductive Stop where
  | exit
  | endOfFunction
  | leaveLoop (levels : Nat)
  | nextRound (levels : Nat)
  | killed (process signal : Nat)
  | starved
  deriving DecidableEq

abbrev Act := ExceptT Stop (StateM State)

/-! ## Names and values -/

def ascii (s : String) : Bytes := Utf8.ofString s

def decimal (n : Nat) : Bytes := Utf8.encode (Text.numeral n)

def count? (bs : Bytes) : Option Nat := Text.natural? (Utf8.decodeLossy bs)

def joinedWith (separator : Bytes) (vs : List Bytes) : Bytes := List.intercalate separator vs

namespace State

def value? (s : State) (name : String) : Option Bytes :=
  (s.bindings.lookup name).bind (·.value)

def separators (s : State) : Bytes := (s.value? "IFS").getD (ascii " \t\n")

def bind (name : String) (b : Binding) (s : State) : State :=
  { s with bindings := s.bindings.filter (·.1 != name) ++ [(name, b)] }

def unbind (name : String) (s : State) : State :=
  { s with bindings := s.bindings.filter (·.1 != name) }

def assign (name : String) (value : Bytes) (s : State) : State :=
  s.bind name { (s.bindings.lookup name).getD ⟨none, false, false⟩ with value := some value }

def environment (s : State) : Environment :=
  s.bindings.foldl (fun env (name, b) =>
    match b.value with
    | some v => if b.isExported then env.set name v else env
    | none => env) .empty

def connection? (s : State) (descriptor : Nat) : Option (Nat × Connection) := do
  let id ← s.descriptors.lookup descriptor
  let c ← s.connections.lookup id
  some (id, c)

def setConnection (id : Nat) (c : Connection) (s : State) : State :=
  { s with connections := (id, c) :: s.connections.filter (·.1 != id) }

def addConnection (c : Connection) (s : State) : Nat × State :=
  let id := s.connections.foldl (fun n x => max n (x.1 + 1)) 0
  (id, { s with connections := (id, c) :: s.connections })

def attach (descriptor id : Nat) (s : State) : State :=
  { s with descriptors := (descriptor, id) :: s.descriptors.filter (·.1 != descriptor) }

def connect (descriptor : Nat) (c : Connection) (s : State) : State :=
  let (id, s) := s.addConnection c
  s.attach descriptor id

def overwritten (old : Bytes) (position : Nat) (bs : Bytes) : Bytes :=
  let front := old.take position
  front ++ List.replicate (position - front.length) 0 ++ bs ++ old.drop (position + bs.length)

/-- Writes to a descriptor. What no file takes is lost. -/
def write (descriptor : Nat) (bs : Bytes) (s : State) : State :=
  match s.connection? descriptor with
  | none => s
  | some (id, c) =>
    match c with
    | .output => { s with written := s.written ++ [.out bs] }
    | .errors => { s with written := s.written ++ [.err bs] }
    | .pipe waiting => s.setConnection id (.pipe (waiting ++ bs))
    | .sink => s
    | .file place position appends =>
      match s.world.tree.entryAt? place with
      | some (.file old) =>
        let start := if appends then old.length else position
        let tree := s.world.tree.put place (.file (overwritten old start bs))
        { s with world := s.world.withTree tree }.setConnection id
          (.file place (start + bs.length) appends)
      | _ => s

def waiting (descriptor : Nat) (s : State) : Bytes :=
  match s.connection? descriptor with
  | some (_, .pipe bs) => bs
  | some (_, .file place position _) =>
    match s.world.tree.entryAt? place with
    | some (.file bs) => bs.drop position
    | _ => []
  | _ => []

def advance (descriptor count : Nat) (s : State) : State :=
  match s.connection? descriptor with
  | some (id, .pipe bs) => s.setConnection id (.pipe (bs.drop count))
  | some (id, .file place position appends) =>
    s.setConnection id (.file place (position + count) appends)
  | _ => s

end State

/-! ## Actions -/

def descriptor : Stream → Nat
  | .out => 1
  | .err => 2

def write (descriptor : Nat) (bs : Bytes) : Act Unit := modify (·.write descriptor bs)

def finish (status : Nat) : Act Unit := modify fun s => { s with status }

def exitWith (status : Nat) : Act α := do
  finish status
  throw .exit

def complain (what : Bytes) : Act Unit := do
  let s ← get
  write 2 (s.name ++ ascii ": " ++ decimal s.line ++ ascii ": " ++ what ++ ascii "\n")

def fail (what : Bytes) : Act α := do
  complain what
  exitWith 2

def assign (name : String) (value : Bytes) : Act Unit := do
  let s ← get
  if (s.bindings.lookup name).any (·.isReadOnly) then fail (ascii (name ++ ": is read only"))
  else set (s.assign name value)

/-! ## Redirections -/

def openingTrouble (makes : Bool) (path : Bytes) (e : SystemFault) : Bytes :=
  let reason :=
    if e = .noEntry ∨ e = .notDirectory then
      if makes then "Directory nonexistent" else "No such file"
    else e.message
  ascii (if makes then "cannot create " else "cannot open ") ++ path ++ ascii (": " ++ reason)

def openFile (direction : Direction) (path : Bytes) (w : World) :
    Except Bytes (Connection × World) :=
  let name := nameText path
  match direction with
  | .input =>
    match w.find name with
    | .error e => .error (openingTrouble false path e)
    | .ok (place, .file _) => .ok (.file place 0 false, w)
    | .ok (_, .sealed e) => .error (openingTrouble false path e)
    | .ok _ => .ok (.sink, w)
  | direction =>
    match w.writable name with
    | .error e => .error (openingTrouble true path e)
    | .ok (_, .device) => .ok (.sink, w)
    | .ok (place, .file old) =>
      let contents := if direction = .output then [] else old
      .ok (.file place 0 (direction == .append), w.withTree (w.tree.put place (.file contents)))
    | .ok _ => .ok (.sink, w)

/-- Connects a descriptor to what another one is connected to, or to nothing. -/
def copyDescriptor (descriptor : Nat) (text : Bytes) (s : State) : Except Bytes State :=
  let others := s.descriptors.filter (·.1 != descriptor)
  if text = ascii "-" then .ok { s with descriptors := others }
  else
    match Text.natural? (Utf8.decodeLossy text) with
    | none => .error (ascii "Syntax error: Bad fd number")
    | some n =>
      match s.descriptors.lookup n with
      | some id => .ok { s with descriptors := (descriptor, id) :: others }
      | none => .error (decimal n ++ ascii ": Bad file descriptor")

end PackageSweep.Shell
