import Mathlib.Algebra.Ring.Nat
import PackageSweep.Duration

/-!
# Durations added one after the other

A sum of durations does not depend on their order. Adding in one pass, with every addition checked
and the nanoseconds carried over as late as possible, gives the same sum, and fails on the same
durations.
-/

namespace PackageSweep

namespace Duration

/-- A sum in the making, seconds and nanoseconds apart. -/
structure Tally where
  seconds : Nat
  nanos : Nat

/-- A number, if it fits 64 bits. -/
def checked? (n : Nat) : Option Nat := if n ≤ Text.maxWord then some n else none

namespace Tally

def nanoseconds (t : Tally) : Nat := t.seconds * 1000000000 + t.nanos

/-- Adds a duration. Only when the nanoseconds would not fit, those so far are carried over. -/
def add? (t : Tally) (d : Duration) : Option Tally :=
  match checked? (t.seconds + d.seconds) with
  | none => none
  | some seconds =>
    match checked? (t.nanos + d.nanos) with
    | some nanos => some ⟨seconds, nanos⟩
    | none =>
      match checked? (seconds + t.nanos / 1000000000) with
      | some seconds => some ⟨seconds, t.nanos % 1000000000 + d.nanos⟩
      | none => none

def settle? (t : Tally) : Option Duration := ofParts? t.seconds t.nanos

end Tally

/-- The sum of durations, added one after the other. -/
def tallied? (ds : List Duration) : Option Duration :=
  (ds.foldlM Tally.add? ⟨0, 0⟩).bind Tally.settle?

variable {d : Duration} {ds : List Duration} {t t' : Tally} {n seconds nanos : Nat}

theorem total_perm {xs ys : List Duration} (h : xs.Perm ys) : total xs = total ys := by
  induction h with
  | nil => rfl
  | cons d _ ih => rw [total_cons, total_cons, ih]
  | swap d e ds =>
      rw [total_cons, total_cons, total_cons, total_cons]
      exact Nat.add_left_comm _ _ _
  | trans _ _ ih ih' => exact ih.trans ih'

theorem checked?_eq_some_iff {m : Nat} : checked? n = some m ↔ n = m ∧ n ≤ Text.maxWord := by
  rw [checked?, Option.ite_none_right_eq_some, Option.some.injEq]
  exact and_comm

theorem checked?_eq_none_iff : checked? n = none ↔ Text.maxWord < n := by
  rw [checked?, ite_eq_right_iff]
  simp

theorem nanoseconds_of_add? (h : t.add? d = some t') :
    t'.nanoseconds = t.nanoseconds + d.nanoseconds := by
  have hdm := Nat.div_add_mod t.nanos 1000000000
  rw [Tally.add?] at h
  split at h
  · simp at h
  · rename_i seconds hseconds
    obtain ⟨rfl, -⟩ := checked?_eq_some_iff.mp hseconds
    split at h
    · rename_i nanos hnanos
      obtain ⟨rfl, -⟩ := checked?_eq_some_iff.mp hnanos
      obtain rfl := Option.some.inj h
      simp only [Tally.nanoseconds, nanoseconds]
      omega
    · split at h
      · rename_i whole hwhole
        obtain ⟨rfl, -⟩ := checked?_eq_some_iff.mp hwhole
        obtain rfl := Option.some.inj h
        simp only [Tally.nanoseconds, nanoseconds]
        omega
      · simp at h

/-- An addition that fails leaves too many whole seconds, carried over or not. -/
theorem maxWord_lt_of_add? (h : t.add? d = none) :
    Text.maxWord < (t.nanoseconds + d.nanoseconds) / 1000000000 := by
  simp only [Tally.nanoseconds, nanoseconds]
  rw [Tally.add?] at h
  split at h
  · rename_i hseconds
    rw [checked?_eq_none_iff] at hseconds
    omega
  · rename_i seconds hseconds
    obtain ⟨rfl, -⟩ := checked?_eq_some_iff.mp hseconds
    split at h
    · simp at h
    · split at h
      · simp at h
      · rename_i hwhole
        rw [checked?_eq_none_iff] at hwhole
        omega

/-- What is still to be added counts as much as what has been, by induction on the former. -/
theorem foldlM_add?_bind_settle? (ds : List Duration) (t : Tally) :
    (ds.foldlM Tally.add? t).bind Tally.settle? = ofNanoseconds? (t.nanoseconds + total ds) := by
  induction ds generalizing t with
  | nil =>
      rw [List.foldlM_nil, Option.pure_def, Option.bind_some, total_nil, Nat.add_zero]
      exact ofParts?_eq_ofNanoseconds? t.seconds t.nanos
  | cons d ds ih =>
      rw [List.foldlM_cons, total_cons, ← Nat.add_assoc]
      cases hadd : t.add? d with
      | none =>
          have hlarge := maxWord_lt_of_add? hadd
          have hle := Nat.le_add_right (t.nanoseconds + d.nanoseconds) (total ds)
          have hnone := ofNanoseconds?_eq_none_iff.mpr
            (Nat.lt_of_lt_of_le hlarge (Nat.div_le_div_right hle))
          rw [hnone, Option.bind_eq_bind, Option.bind_none, Option.bind_none]
      | some t' =>
          rw [← nanoseconds_of_add? hadd, ← ih t', Option.bind_eq_bind, Option.bind_some]

theorem tallied?_eq_sum? (ds : List Duration) : tallied? ds = sum? ds := by
  rw [tallied?, foldlM_add?_bind_settle?, sum?_eq_ofNanoseconds?, Tally.nanoseconds, Nat.zero_mul,
    Nat.zero_add, Nat.zero_add]

theorem millis_eq (d : Duration) : d.millis = d.nanoseconds / 1000000 % 2 ^ 64 := by
  have hwhole : (d.seconds * 1000000000 + d.nanos) / 1000000 =
      d.seconds * 1000 + d.nanos / 1000000 := by
    omega
  rw [nanoseconds, hwhole]
  rfl

end Duration

end PackageSweep
