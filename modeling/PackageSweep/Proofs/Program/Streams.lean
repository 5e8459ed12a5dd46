import PackageSweep.Config.Load
import PackageSweep.Program.Basic

/-!
# What a trace puts on a stream

A log goes to one stream, so on the other one events leave nothing, and only what the program writes
there itself is seen.
-/

namespace PackageSweep

namespace Trace

/-- A trace of events alone. -/
def IsLog (t : Trace) : Prop := ∀ s ∈ t, ∃ e, s = .event e

variable {t u : Trace} {stream logTo : Stream} {log : Event → Bytes}

theorem isLog_nil : IsLog [] := by
  intro s hs
  simp at hs

theorem isLog_cons (e : Event) (h : IsLog t) : IsLog (.event e :: t) := by
  intro s hs
  rcases List.mem_cons.mp hs with rfl | hs
  · exact ⟨e, rfl⟩
  · exact h s hs

theorem isLog_append (ht : IsLog t) (hu : IsLog u) : IsLog (t ++ u) := by
  intro s hs
  rcases List.mem_append.mp hs with hs | hs
  · exact ht s hs
  · exact hu s hs

@[simp] theorem on_append (t u : Trace) (stream logTo : Stream) (log : Event → Bytes) :
    on stream logTo log (t ++ u) = on stream logTo log t ++ on stream logTo log u := by
  simp [on]

/-- Events are not seen on the stream that the log does not go to. -/
theorem IsLog.on_eq_nil (h : IsLog t) (hstream : stream ≠ logTo) : on stream logTo log t = [] := by
  refine List.flatMap_eq_nil_iff.mpr ?_
  intro s hs
  obtain ⟨e, rfl⟩ := h s hs
  rw [Signal.bytesOn, if_neg hstream]

end Trace

namespace Config

variable {root : String} {explicit : Option String} {w : World}

theorem isLog_load (root : String) (explicit : Option String) (w : World) :
    Trace.IsLog (load root explicit w).2 := Trace.isLog_cons _ Trace.isLog_nil

theorem load_eq_of_fst {result : Except Fault Config} (h : (load root explicit w).1 = result) :
    load root explicit w = (result, (load root explicit w).2) := by
  rw [← h]

end Config

end PackageSweep
