import PackageSweep.Log.Signal

/-!
# Runners

A runner executes one command in one directory. It may change the world in any way, except that it
cannot turn the clock back, and answers with a status or a fault. A spawner starts a child process
and reports its raw wait status; it becomes a runner by reading that status.
-/

namespace PackageSweep

/-- How a command ended. -/
structure Status where
  success : Bool
  code : Option Int
  deriving DecidableEq

namespace Status

/-- The status of a command that ended with this code. -/
def ofCode (code : Int) : Status := ⟨code == 0, some code⟩

/-- The status of a child with this raw wait status: the low seven bits name the signal that ended
it, if any, and the next byte holds its exit code. -/
def ofWait (wait : UInt32) : Status :=
  ⟨wait == 0, if wait &&& 0x7f = 0 then some ((wait >>> 8) &&& 0xff).toNat else none⟩

end Status

/-- A command, and the path of the directory that it is to run in. -/
structure Call where
  command : String
  path : String
  deriving DecidableEq

/-- A call that takes no time leaves the clock as it is. -/
theorem Call.clock_le (_ : Call) (w : World) : w.clock ≤ w.clock := Instant.le_refl w.clock

/-- What a runner leaves behind. Its world has the clock as it is by then. -/
structure Reply where
  result : Except Fault Status
  world : World
  trace : Trace := []

structure Runner where
  reply : Call → World → Reply
  onward : ∀ call w, w.clock ≤ (reply call w).world.clock

instance : CoeFun Runner fun _ => Call → World → Reply := ⟨Runner.reply⟩

/-- The time that a call takes in a world. -/
def Runner.elapsed (run : Runner) (call : Call) (w : World) : Duration :=
  (run call w).world.clock.since w.clock

/-- How starting a child went, and what it wrote until it ended. -/
structure Child where
  wait : Except IoCause UInt32
  world : World
  written : List Writing := []

structure Spawner where
  start : Call → World → Child
  onward : ∀ call w, w.clock ≤ (start call w).world.clock

instance : CoeFun Spawner fun _ => Call → World → Child := ⟨Spawner.start⟩

/-- The runner that starts a child for each call. -/
def Spawner.runner (spawn : Spawner) : Runner where
  reply call w :=
    let child := spawn call w
    { result := match child.wait with
        | .ok wait => .ok (.ofWait wait)
        | .error cause => .error (.spawn call.path call.command cause)
      world := child.world
      trace := .event (.spawning call.path) :: child.written.map .writing }
  onward := spawn.onward

end PackageSweep
