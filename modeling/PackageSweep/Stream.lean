import PackageSweep.Text.Utf8

/-!
# Output streams

A program writes bytes on two streams. What it writes is kept in one order for both of them.
-/

namespace PackageSweep

inductive Stream where
  | out
  | err
  deriving DecidableEq

/-- Bytes that are written on a stream at one time. -/
structure Writing where
  stream : Stream
  bytes : Bytes
  deriving DecidableEq

namespace Writing

def out (bytes : Bytes) : Writing := ⟨.out, bytes⟩

def err (bytes : Bytes) : Writing := ⟨.err, bytes⟩

def on (stream : Stream) (w : Writing) : Bytes := if w.stream = stream then w.bytes else []

end Writing

end PackageSweep
