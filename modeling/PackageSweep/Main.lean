import PackageSweep.Program.Sweep
import PackageSweep.Program.Versions
import PackageSweep.Shell.Spawn
import PackageSweep.World.Change

/-!
# The command line

The first argument names the program: `run` or `versions`. The file trees below the current
directory and below the root are read first, the program runs on them, and what it changed is
written back. A file that cannot be read is taken in as such. What cannot be taken in at all is
named on the error stream.
-/

namespace PackageSweep.CommandLine

def path (p : Place) : String := "/" ++ "/".intercalate p

def place (path : String) : Place := (Path.names path.toList).map String.ofList

def leading (p : Place) : List (Place × Entry) :=
  (List.range (p.length + 1)).tail.map fun n => (p.take n, .directory)

/-- The variables that are written one after the other with a zero byte behind each. -/
def environment (bs : Bytes) : Environment :=
  let written := (bs.splitOn 0).filter (· ≠ [])
  written.foldl (fun env v =>
    let name := v.takeWhile (· ≠ Environment.equalsSign)
    env.set (String.ofList (Utf8.decodeLossy name)) (v.drop (name.length + 1))) .empty

/-- The fault behind an error that reading a file ends on. -/
def faultOf : IO.Error → SystemFault
  | .permissionDenied _ _ _ => .permissionDenied
  | _ => .inputOutput

def file (path : String) : IO Entry := do
  match ← (IO.FS.readBinFile path).toBaseIO with
  | .ok contents => pure (.file contents.toList)
  | .error e => pure (.sealed (faultOf e))

def leaveOut (p : Place) (why : String) : IO Unit :=
  IO.eprintln (path p ++ " is left out: " ++ why)

/-- What stands below a place. No path is so long that it would be deeper than the walk goes. -/
def below : (depth : Nat) → Place → IO (List (Place × Entry))
  | 0, p => do
    leaveOut p "it is too deep"
    pure []
  | depth + 1, p => do
    let mut found : List (Place × Entry) := []
    match ← (IO.FS.realPath (path p) >>= (·.readDir)).toBaseIO with
    | .error e => leaveOut p (toString e)
    | .ok names =>
      for e in names do
        let inside := p ++ [e.fileName]
        match ← e.path.symlinkMetadata.toBaseIO with
        | .error e => leaveOut inside (toString e)
        | .ok about =>
          match about.type with
          | .dir => found := found ++ (inside, .directory) :: (← below depth inside)
          | .file => found := found ++ [(inside, ← file e.path.toString)]
          | _ => leaveOut inside "it is neither a file nor a directory, or it is a link"
    pure found

def world (root : String) : IO World := do
  let here := place (← IO.currentDir).toString
  -- Nothing is read below a root that is not there.
  let there := (← (IO.FS.realPath root).toBaseIO).toOption.map fun p => place p.toString
  let mut tree : Tree := ⟨leading ["dev"] ++ [(["dev", "null"], .device)]⟩
  for p in (here :: there.toList).eraseDups do
    for (q, e) in leading p ++ (← below Tree.maxPath p) do
      tree := tree.put q e
  let environment := environment (← IO.FS.readBinFile "/proc/self/environ").toList
  let clock := Instant.reading (← IO.monoNanosNow)
  pure { tree, here, environment, clock }

def carryOut : Change → IO Unit
  | .remove p => do
    try IO.FS.removeFile (path p) catch _ => IO.FS.removeDir (path p)
  | .makeDirectory p => IO.FS.createDirAll (path p)
  | .write p contents => IO.FS.writeBinFile (path p) ⟨contents.toArray⟩

def start (root : String) (program : World → Written) : IO UInt32 := do
  let w ← world root
  let done := program w
  (w.tree.changes done.world.tree).forM carryOut
  (← IO.getStdout).write ⟨done.out.toArray⟩
  (← IO.getStderr).write ⟨done.err.toArray⟩
  pure done.status.toUInt32

end PackageSweep.CommandLine

open PackageSweep in
def main (args : List String) : IO UInt32 := do
  match args with
  | "run" :: rest =>
    let root := (SweepArguments.read rest).toOption.elim defaultRoot (·.root)
    CommandLine.start root (SweepProgram.main .plain .linux Shell.spawn rest)
  | "versions" :: rest =>
    let root := (VersionArguments.read rest).toOption.elim defaultRoot (·.root)
    CommandLine.start root (VersionProgram.main .plain rest)
  | _ => do
    IO.eprint ("run|versions " ++ Wording.plain.usage)
    pure 2
