/-!
# Steps that may fail

How a result with a fault behaves under mapping and under going on with a next step.
-/

namespace PackageSweep

namespace Result

variable {ε α β : Type}

theorem map_eq_ok_iff {f : α → β} {x : Except ε α} {b : β} :
    x.map f = .ok b ↔ ∃ a, x = .ok a ∧ f a = b := by
  cases x <;> simp [Except.map]

theorem map_eq_error_iff {f : α → β} {x : Except ε α} {e : ε} :
    x.map f = .error e ↔ x = .error e := by
  cases x <;> simp [Except.map]

/-- A check goes on to the next step only when it passes. -/
theorem andThen_eq_ok_iff {x : Except ε Unit} {next : Unit → Except ε β} {b : β} :
    (x >>= next) = .ok b ↔ x = .ok () ∧ next () = .ok b := by
  cases x <;> simp [bind, Except.bind]

theorem andThen_eq_error_iff {x : Except ε Unit} {next : Unit → Except ε β} {e : ε} :
    (x >>= next) = .error e ↔ x = .error e ∨ x = .ok () ∧ next () = .error e := by
  cases x <;> simp [bind, Except.bind]

theorem mapError_eq_ok_iff {δ : Type} {f : δ → ε} {x : Except δ α} {a : α} :
    x.mapError f = .ok a ↔ x = .ok a := by
  cases x with
  | error d => exact iff_of_false nofun nofun
  | ok b =>
      change (Except.ok b : Except ε α) = .ok a ↔ _
      simp

theorem mapError_eq_error_iff {δ : Type} {f : δ → ε} {x : Except δ α} {e : ε} :
    x.mapError f = .error e ↔ ∃ d, x = .error d ∧ f d = e := by
  cases x with
  | error d =>
      change (Except.error (f d) : Except ε α) = .error e ↔ _
      simp
  | ok b => exact iff_of_false nofun (by simp)

theorem throw_eq_error_iff {e e' : ε} : (throw e : Except ε α) = .error e' ↔ e = e' := by
  simp [throw, throwThe, MonadExceptOf.throw]

theorem throw_ne_ok {e : ε} {a : α} : (throw e : Except ε α) ≠ .ok a := by
  simp [throw, throwThe, MonadExceptOf.throw]

end Result

end PackageSweep
