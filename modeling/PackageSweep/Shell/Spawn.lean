import PackageSweep.Shell.Execution
import PackageSweep.Sweep.Runner

/-!
# Starting shells

A shell is started for a command in a directory. It sees the exported variables of the world, reads
from an input without anything on it, and ends with a status or by a signal.
-/

namespace PackageSweep.Shell

/-- The process of a shell that is started, whatever its number is. -/
def firstProcess : Nat := 1000

def State.start (w : World) (place : Place) : State :=
  let inherited := w.environment.pairs.filterMap fun (name, value) =>
    if isName name.toList then some (name, (⟨some value, true, false⟩ : Binding)) else none
  let s : State :=
    { world := { w with here := place }
      name := ascii "sh"
      bindings := firstBindings inherited
      shell := firstProcess
      process := firstProcess
      nextProcess := firstProcess + 1 }
  s.bind "PWD" ⟨some (Builtin.placePath place), true, false⟩

/-- The raw wait status of a process that ended by itself or by a signal. -/
def waitStatus (signal? : Option Nat) (status : Nat) : UInt32 :=
  match signal? with
  | some signal => UInt32.ofNat signal
  | none => UInt32.ofNat (status % 256 * 256)

/-- Executes a command in a directory. A shell that finds no end is taken for one that was killed.
-/
def perform (command : String) (place : Place) (w : World) : Child :=
  let run := execute mostNested
  let (outcome, s) := toEnd run (runText run false (Utf8.ofString command)) (State.start w place)
  { wait := .ok (match outcome with
      | .ok signal? => waitStatus signal? s.status
      | .error (.killed _ signal) => waitStatus (some signal) s.status
      | .error _ => waitStatus (some 9) s.status)
    world := w.withTree s.world.tree
    written := s.written }

/-- What becomes of the shell for a call. It takes no time on the clock of the world. -/
def start (call : Call) (w : World) : Child :=
  if World.hasNul call.command || World.hasNul call.path then ⟨.error .nulInArgument, w, []⟩
  else
    match w.find call.path with
    | .error e => ⟨.error (.system e), w, []⟩
    | .ok (place, .directory) => perform call.command place w
    | .ok _ => ⟨.error (.system .notDirectory), w, []⟩

theorem start_clock (call : Call) (w : World) : (start call w).world.clock = w.clock := by
  rw [start]
  split
  · rfl
  · split <;> rfl

def spawn : Spawner where
  start := start
  onward call w := by
    rw [start_clock]
    exact Instant.le_refl w.clock

end PackageSweep.Shell
