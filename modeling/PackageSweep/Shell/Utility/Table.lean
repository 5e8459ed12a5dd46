import PackageSweep.Shell.Builtin
import PackageSweep.Shell.Utility.Calculation
import PackageSweep.Shell.Utility.Lines
import PackageSweep.Shell.Utility.StreamEditor

/-!
# The utilities by name
-/

namespace PackageSweep.Shell.Utility

def silent (status : Nat) : Utility := fun c => { status, world := c.world }

def echo : Utility := fun c =>
  let isOption (a : Bytes) : Bool := [ascii "-n", ascii "-e", ascii "-E", ascii "-ne"].contains a
  let options := c.arguments.takeWhile isOption
  let text := joinedWith [byteOf ' '] (c.arguments.drop options.length)
  let reads := options.contains (ascii "-e") || options.contains (ascii "-ne")
  let (bs, stops) := if reads then escaped (text.length + 1) text else (text, false)
  let isOpen := options.contains (ascii "-n") || options.contains (ascii "-ne") || stops
  c.prints (bs ++ if isOpen then [] else [byteOf '\n'])

def printf : Utility := fun c =>
  match c.arguments with
  | [] => c.misused (ascii "missing operand")
  | format :: rest =>
    let p := printed format rest
    { c.prints p.out with
      status := if p.status = 0 then 0 else 1
      written := .out p.out :: p.troubles.flatMap c.reports }

def test : Utility := fun c =>
  match Condition.decide c.world c.arguments with
  | .ok v => { status := if v then 0 else 1, world := c.world }
  | .error e => { status := 2, written := c.reports e.text, world := c.world }

def pwd : Utility := fun c => c.prints (Builtin.placePath c.world.here ++ [byteOf '\n'])

def environmentText (env : Environment) : Bytes :=
  ofLines (env.pairs.map fun (n, v) => Environment.written n v)

def printenv : Utility := fun c =>
  match c.arguments with
  | [] => c.prints (environmentText c.world.environment)
  | names =>
    let values := names.map fun n => c.world.environment.bytes? (nameText n)
    { c.prints (ofLines (values.filterMap id)) with
      status := if values.all (·.isSome) then 0 else 1 }

def uname : Utility := fun c => c.prints (ascii "Linux\n")

def sleep : Utility := fun c =>
  if c.arguments = [] then c.misused (ascii "missing operand") else { world := c.world }

/-- Writes a line over and over. Whatever reads it has had enough after so many. -/
def yes : Utility := fun c =>
  let line := joinedWith [byteOf ' '] (if c.arguments = [] then [ascii "y"] else c.arguments)
  c.prints (ofLines (List.replicate 5000 line))

def table : List (String × Utility) :=
  [("basename", basename), ("cat", cat), ("chmod", chmod), ("cp", cp), ("cut", cut),
    ("dirname", dirname), ("echo", echo), ("expr", expr), ("false", silent 1), ("find", find),
    ("grep", grep), ("head", head), ("ls", ls), ("mkdir", mkdir), ("mv", mv),
    ("printenv", printenv), ("printf", printf), ("pwd", pwd), ("rev", rev), ("rm", rm),
    ("rmdir", rmdir), ("sed", sed), ("seq", seq), ("sleep", sleep), ("sort", sort),
    ("sync", silent 0), ("tail", tail), ("tee", tee), ("test", test), ("touch", touch),
    ("tr", tr), ("true", silent 0), ("uname", uname), ("uniq", uniq), ("wc", wc), ("yes", yes)]

/-- The programs that run others and are no utilities themselves. -/
def launchers : List String := ["dash", "env", "nice", "nohup", "sh", "timeout", "xargs"]

end PackageSweep.Shell.Utility
