import PackageSweep.Text.Numeral

/-!
# Durations

Whole seconds and a part of a second in nanoseconds. A duration is told by its nanoseconds, and a
sum of durations by the sum of theirs: it is exact, and there is none only when its whole seconds do
not fit 64 bits.
-/

namespace PackageSweep

structure Duration where
  seconds : Nat
  nanos : Nat
  nanos_lt : nanos < 1000000000 := by omega

namespace Duration

def zero : Duration := ⟨0, 0, by omega⟩

theorem rest_lt (nanos : Nat) : nanos % 1000000000 < 1000000000 := Nat.mod_lt _ (by omega)

/-- The duration of the given seconds and nanoseconds, whole seconds carried over. -/
def ofParts? (seconds nanos : Nat) : Option Duration :=
  let s := seconds + nanos / 1000000000
  if s ≤ Text.maxWord then some ⟨s, nanos % 1000000000, rest_lt nanos⟩ else none

/-- The sum of durations, if its seconds fit. -/
def sum? (ds : List Duration) : Option Duration :=
  ofParts? (ds.foldr (fun d n => d.seconds + n) 0) (ds.foldr (fun d n => d.nanos + n) 0)

/-- The whole milliseconds, reduced to 64 bits. -/
def millis (d : Duration) : Nat := (d.seconds * 1000 + d.nanos / 1000000) % Text.wordRange

def text (d : Duration) : String :=
  let places := Text.numeral d.nanos
  String.ofList (Text.numeral d.seconds ++ '.' :: List.replicate (9 - places.length) '0' ++
    places ++ ['s'])

/-- All of a duration in nanoseconds. -/
def nanoseconds (d : Duration) : Nat := d.seconds * 1000000000 + d.nanos

/-- The nanoseconds of durations together. -/
def total : List Duration → Nat
  | [] => 0
  | d :: ds => d.nanoseconds + total ds

/-- The duration of so many nanoseconds, if its seconds fit. -/
def ofNanoseconds? (n : Nat) : Option Duration := ofParts? 0 n

variable {d : Duration} {ds : List Duration} {n : Nat}

@[simp] theorem nanoseconds_zero : zero.nanoseconds = 0 := rfl

@[simp] theorem total_nil : total [] = 0 := rfl

@[simp] theorem total_cons (d : Duration) (ds : List Duration) :
    total (d :: ds) = d.nanoseconds + total ds := rfl

theorem ofNanoseconds?_eq_some_iff :
    ofNanoseconds? n = some d ↔ d.nanoseconds = n ∧ d.seconds ≤ Text.maxWord := by
  obtain ⟨s, m, hm⟩ := d
  have hdm := Nat.div_add_mod n 1000000000
  have hmod := rest_lt n
  simp only [ofNanoseconds?, ofParts?, nanoseconds, Nat.zero_add]
  constructor
  · intro h
    obtain ⟨hfits, heq⟩ := Option.ite_none_right_eq_some.mp h
    obtain ⟨rfl, rfl⟩ := Duration.mk.inj (Option.some.inj heq)
    exact ⟨by omega, hfits⟩
  · rintro ⟨hsum, hfits⟩
    obtain ⟨rfl, rfl⟩ : s = n / 1000000000 ∧ m = n % 1000000000 := by omega
    exact if_pos hfits

theorem ofNanoseconds?_eq_none_iff :
    ofNanoseconds? n = none ↔ Text.maxWord < n / 1000000000 := by
  rw [ofNanoseconds?, ofParts?, ite_eq_right_iff, ← Nat.not_le, Nat.zero_add]
  exact ⟨fun h hfits => by simpa using h hfits, fun h hfits => absurd hfits h⟩

theorem ofParts?_eq_ofNanoseconds? (seconds nanos : Nat) :
    ofParts? seconds nanos = ofNanoseconds? (seconds * 1000000000 + nanos) := by
  have hdiv : (seconds * 1000000000 + nanos) / 1000000000 = seconds + nanos / 1000000000 := by
    omega
  have hmod : (seconds * 1000000000 + nanos) % 1000000000 = nanos % 1000000000 := by omega
  simp only [ofNanoseconds?, ofParts?, Nat.zero_add, hdiv, hmod]

theorem sum?_eq_ofNanoseconds? (ds : List Duration) : sum? ds = ofNanoseconds? (total ds) := by
  rw [sum?, ofParts?_eq_ofNanoseconds?]
  congr 1
  induction ds with
  | nil => simp
  | cons d ds ih =>
      rw [List.foldr_cons, List.foldr_cons, total_cons, ← ih, Nat.add_mul]
      exact Nat.add_add_add_comm _ _ _ _

theorem sum?_eq_some_iff :
    sum? ds = some d ↔ d.nanoseconds = total ds ∧ d.seconds ≤ Text.maxWord := by
  rw [sum?_eq_ofNanoseconds?, ofNanoseconds?_eq_some_iff]

theorem sum?_eq_none_iff : sum? ds = none ↔ Text.maxWord < total ds / 1000000000 := by
  rw [sum?_eq_ofNanoseconds?, ofNanoseconds?_eq_none_iff]

end Duration

end PackageSweep
