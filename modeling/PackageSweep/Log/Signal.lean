import PackageSweep.Log.Event
import PackageSweep.Stream

/-!
# Signals

Everything that a program says while it runs, in one order: events for the log, and what it writes
on the output streams.
-/

namespace PackageSweep

inductive Signal where
  | event (e : Event)
  | writing (w : Writing)

namespace Signal

def out (bytes : Bytes) : Signal := .writing (.out bytes)

def err (bytes : Bytes) : Signal := .writing (.err bytes)

end Signal

abbrev Trace := List Signal

namespace Trace

def events (t : Trace) : List Event :=
  t.filterMap fun
    | .event e => some e
    | .writing _ => none

@[simp] theorem events_event_cons (e : Event) (t : Trace) :
    events (.event e :: t) = e :: events t := rfl

@[simp] theorem events_append (s t : Trace) : events (s ++ t) = events s ++ events t := by
  simp [events]

end Trace

end PackageSweep
