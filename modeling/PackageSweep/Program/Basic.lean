import PackageSweep.Log.Format
import PackageSweep.Log.Signal
import PackageSweep.Sweep.Runner

/-!
# Programs

A finished program leaves an exit number, a world, the calls that it made and a trace. Its log goes
to one of the two output streams, in order with everything else that is written there.
-/

namespace PackageSweep

/-- What a finished program leaves behind. -/
structure Finished where
  exit : Int
  world : World
  calls : List Call := []
  trace : Trace

namespace Finished

/-- The exit status: the low eight bits of the number given to the system. -/
def status (f : Finished) : Nat := (f.exit % 256).toNat

end Finished

def lineBytes (text : String) : Bytes := Utf8.ofString (text ++ "\n")

/-- The bytes that a signal puts on a stream, when the log goes to the stream `logTo`. -/
def Signal.bytesOn (stream logTo : Stream) (log : Event → Bytes) : Signal → Bytes
  | .event e => if stream = logTo then log e else []
  | .writing w => w.on stream

def Trace.on (stream logTo : Stream) (log : Event → Bytes) (t : Trace) : Bytes :=
  t.flatMap (Signal.bytesOn stream logTo log)

/-- A finished program, with what it wrote. -/
structure Written where
  status : Nat
  out : Bytes
  err : Bytes
  world : World

def Finished.write (f : Finished) (logTo : Stream) (log : Event → Bytes) : Written where
  status := f.status
  out := f.trace.on .out logTo log
  err := f.trace.on .err logTo log
  world := f.world

end PackageSweep
