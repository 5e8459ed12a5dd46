import PackageSweep.Duration

/-!
# The clock

A clock that only goes on. It is read in nanoseconds, and its seconds fit 64 bits. The time between
two readings is a duration. Spans that follow one another on the clock are together no longer than
what it reads at their end, so a sum of them always fits.
-/

namespace PackageSweep

/-- The last nanosecond that a clock can read. -/
def Instant.last : Nat := 18446744073709551615999999999

/-- A reading of the clock. -/
structure Instant where
  nanoseconds : Nat
  fits : nanoseconds ≤ Instant.last

namespace Instant

/-- The reading at so many nanoseconds. A clock that has come to its last reading stays there. -/
def reading (nanoseconds : Nat) : Instant := ⟨min nanoseconds last, Nat.min_le_right _ _⟩

instance : LE Instant := ⟨fun i j => i.nanoseconds ≤ j.nanoseconds⟩

/-- The reading when a time has passed. -/
def after (i : Instant) (d : Duration) : Instant := reading (i.nanoseconds + d.nanoseconds)

/-- The time from one reading to another, which is none if the other one is earlier. -/
def since (j i : Instant) : Duration where
  seconds := (j.nanoseconds - i.nanoseconds) / 1000000000
  nanos := (j.nanoseconds - i.nanoseconds) % 1000000000
  nanos_lt := Duration.rest_lt _

variable {i j : Instant}

theorem le_iff : i ≤ j ↔ i.nanoseconds ≤ j.nanoseconds := Iff.rfl

protected theorem le_refl (i : Instant) : i ≤ i := Nat.le_refl i.nanoseconds

theorem le_after (i : Instant) (d : Duration) : i ≤ i.after d :=
  Nat.le_min.mpr ⟨Nat.le_add_right _ _, i.fits⟩

theorem nanoseconds_since (h : i ≤ j) :
    (j.since i).nanoseconds + i.nanoseconds = j.nanoseconds := by
  have hdm := Nat.div_add_mod (j.nanoseconds - i.nanoseconds) 1000000000
  rw [le_iff] at h
  simp only [since, Duration.nanoseconds]
  omega

/-- The seconds of a time no longer than what a clock reads fit 64 bits. -/
theorem seconds_le {n : Nat} (h : n ≤ i.nanoseconds) : n / 1000000000 ≤ Text.maxWord := by
  have hlast : last / 1000000000 = Text.maxWord := by decide
  rw [← hlast]
  exact Nat.div_le_div_right (Nat.le_trans h i.fits)

end Instant

end PackageSweep
