import PackageSweep.Shell.State

/-!
# Utilities

A utility is a program beside the shell. It is given arguments, the bytes on its input and the
world, and leaves a status, what it wrote, and the world that it changed.
-/

namespace PackageSweep.Shell

/-- What a utility is given. -/
structure Invocation where
  name : String
  arguments : List Bytes
  input : Bytes
  world : World

/-- What a utility leaves. -/
structure Done where
  status : Nat := 0
  written : List Writing := []
  world : World
  readsInput : Bool := false

abbrev Utility := Invocation → Done

namespace Invocation

def reports (c : Invocation) (what : Bytes) : List Writing :=
  [.err (ascii (c.name ++ ": ") ++ what ++ ascii "\n")]

def misused (c : Invocation) (what : Bytes) (status : Nat := 1) : Done where
  status := status
  written := c.reports what ++
    [.err (ascii ("Try '" ++ c.name ++ " --help' for more information.\n"))]
  world := c.world

def prints (c : Invocation) (bs : Bytes) : Done where
  written := [.out bs]
  world := c.world

end Invocation

def inQuotes (bs : Bytes) : Bytes := ascii "'" ++ bs ++ ascii "'"

def clear (bs : Bytes) : Bytes :=
  let isPlain (b : UInt8) : Bool :=
    let c := Char.ofNat b.toNat
    c.isAlphanum || "_-./+,:@%^".toList.contains c
  if bs ≠ [] ∧ bs.all isPlain then bs else inQuotes bs

/-- Options with their values, in order, and the operands. -/
structure Parsed where
  options : List (Char × Bytes) := []
  operands : List Bytes := []

namespace Parsed

def has (p : Parsed) (c : Char) : Bool := p.options.any (·.1 == c)

def value? (p : Parsed) (c : Char) : Option Bytes :=
  ((p.options.filter (·.1 == c)).getLast?).map (·.2)

/-- Takes the letters of one argument. The last may leave its value to the next argument. -/
def letters (flags valued : String) : Bytes → Except Bytes (List (Char × Bytes) × Option Char)
  | [] => .ok ([], none)
  | b :: bs =>
    let c := Char.ofNat b.toNat
    if flags.toList.contains c then
      (letters flags valued bs).map fun (more, open?) => ((c, []) :: more, open?)
    else if valued.toList.contains c then
      if bs = [] then .ok ([], some c) else .ok ([(c, bs)], none)
    else .error (ascii "invalid option -- " ++ inQuotes [b])

/-- Reads arguments. Options may stand behind operands, up to a double dash. -/
def read (flags valued : String) : List Bytes → Except Bytes Parsed
  | [] => .ok {}
  | a :: rest =>
    if a = ascii "--" then .ok { operands := rest }
    else if (ascii "--").isPrefixOf a then .error (ascii "unrecognized option " ++ inQuotes a)
    else
      match a with
      | dash :: b :: bs =>
        if dash = byteOf '-' then
          match letters flags valued (b :: bs) with
          | .error e => .error e
          | .ok (found, none) =>
            (read flags valued rest).map fun p => { p with options := found ++ p.options }
          | .ok (found, some c) =>
            match rest with
            | [] => .error (ascii "option requires an argument -- " ++ inQuotes [byteOf c])
            | v :: rest =>
              (read flags valued rest).map fun p =>
                { p with options := found ++ (c, v) :: p.options }
        else (read flags valued rest).map fun p => { p with operands := a :: p.operands }
      | a => (read flags valued rest).map fun p => { p with operands := a :: p.operands }

end Parsed

def withOptions (flags valued : String) (run : Parsed → Utility) (misuse : Nat := 1) : Utility :=
  fun c =>
    match Parsed.read flags valued c.arguments with
    | .ok p => run p c
    | .error e => c.misused e misuse

/-! ## Inputs -/

def reason (e : SystemFault) : Bytes := ascii e.message

/-- A utility that works on the contents of its operands, or on the input if there are none. -/
def onContents (missing : Bytes → Bytes → Bytes) (work : List (Bytes × Bytes) → List Writing)
    (operands : List Bytes) (misuse : Nat := 1) : Utility := fun c =>
  let operands := if operands = [] then [ascii "-"] else operands
  let read (o : Bytes) : Except Bytes Bytes :=
    if o = ascii "-" then .ok c.input
    else
      match c.world.find (nameText o) with
      | .error e => .error (reason e)
      | .ok (_, .directory) => .error (reason .isDirectory)
      | .ok (_, .sealed e) => .error (reason e)
      | .ok (_, .file bs) => .ok bs
      | .ok (_, .device) => .ok []
  let results := operands.map fun o => (o, read o)
  let troubles := results.flatMap fun (o, r) =>
    match r with
    | .ok _ => []
    | .error why => c.reports (missing o why)
  let good := results.filterMap fun (o, r) => r.toOption.map (o, ·)
  { status := if troubles.isEmpty then 0 else misuse
    written := troubles ++ work good
    world := c.world
    readsInput := operands.contains (ascii "-") }

def plainMissing (operand why : Bytes) : Bytes := clear operand ++ ascii ": " ++ why

def openMissing (operand why : Bytes) : Bytes :=
  ascii "cannot open " ++ inQuotes operand ++ ascii " for reading: " ++ why

/-! ## Lines -/

def lines : Bytes → List Bytes
  | [] => []
  | b :: bs =>
    if b = byteOf '\n' then [b] :: lines bs
    else
      match lines bs with
      | [] => [[b]]
      | l :: ls => (b :: l) :: ls

def bareLines (bs : Bytes) : List Bytes :=
  (lines bs).map fun l => if l.getLast? = some (byteOf '\n') then l.dropLast else l

def ofLines (ls : List Bytes) : Bytes := ls.flatMap (· ++ [byteOf '\n'])

def piecesAt (separator : UInt8) : Bytes → List Bytes
  | [] => [[]]
  | b :: bs =>
    match piecesAt separator bs with
    | [] => [[b]]
    | p :: ps => if b = separator then [] :: p :: ps else (b :: p) :: ps

end PackageSweep.Shell
