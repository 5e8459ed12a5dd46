import PackageSweep.Log.Signal
import PackageSweep.Version.Lookup
import PackageSweep.Version.Next

/-!
# Collecting versions

The versions of all packages, in order. One package without a usable version leaves no row at all.
-/

namespace PackageSweep.Version

def row (w : World) (root directory : String) : Except Fault Row :=
  match read w root directory with
  | .error e => .error e
  | .ok current =>
    match next current with
    | .error e => .error e
    | .ok raised => .ok ⟨directory, current, raised⟩

/-- The rows of packages, and an event for each row that was made. -/
def collect (w : World) (root : String) : List String → Except Fault (List Row) × Trace
  | [] => (.ok [], [])
  | d :: ds =>
    match row w root d with
    | .error e => (.error e, [])
    | .ok r =>
      let (rest, trace) := collect w root ds
      (rest.map (r :: ·), .event (.version r) :: trace)

end PackageSweep.Version
