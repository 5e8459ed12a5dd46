import PackageSweep.Arguments.Programs
import PackageSweep.Proofs.Config.EarliestOffence

/-!
# Accepted arguments

The rules for the arguments of a sweep, said of the words of the command and of the characters of
the root. A command is checked with its words joined, and what joins them is blank, so it says
something exactly if one of its words does. The command is checked before the root.
-/

namespace PackageSweep

variable {s t value : String} {o : Offence} {fault : Fault}

theorem speaks_append_iff : Speaks (s ++ t) ↔ Speaks s ∨ Speaks t := by
  simp only [Speaks, String.toList_append, List.mem_append, or_and_right, exists_or]

theorem not_speaks_empty : ¬ Speaks "" := fun h => h.ne_empty rfl

theorem not_speaks_space : ¬ Speaks " " := by
  rintro ⟨c, hc, hblank⟩
  obtain rfl := List.mem_singleton.mp hc
  exact absurd hblank (by decide)

theorem speaks_intercalate_iff {words : List String} :
    Speaks (" ".intercalate words) ↔ ∃ word ∈ words, Speaks word := by
  induction words with
  | nil => simp [not_speaks_empty]
  | cons word words ih =>
      cases words with
      | nil => simp
      | cons next words =>
          rw [List.exists_mem_cons_iff, String.intercalate_cons_cons, speaks_append_iff,
            speaks_append_iff, or_iff_left not_speaks_space, ih]

namespace SweepArguments

variable {a : SweepArguments}

/-- The rules for the arguments of a sweep. -/
structure Accepted (a : SweepArguments) : Prop where
  command_speaks : ∃ word ∈ a.command, Speaks word
  root_ne_empty : a.root ≠ ""
  root_nul_notMem : '\x00' ∉ a.root.toList

/-- The fault of the first rule that the arguments break. -/
inductive EarliestOffence (a : SweepArguments) : Fault → Prop where
  | blankCommand (hblank : ∀ word ∈ a.command, ¬ Speaks word) :
      EarliestOffence a (.invalidValue "command" (" ".intercalate a.command) .blank)
  | emptyRoot (hcommand : ∃ word ∈ a.command, Speaks word) (hempty : a.root = "") :
      EarliestOffence a (.invalidValue "root" "" .emptyPath)
  | nulInRoot (hcommand : ∃ word ∈ a.command, Speaks word) (hnul : '\x00' ∈ a.root.toList) :
      EarliestOffence a (.invalidValue "root" a.root .nulInPath)

theorem speaks_commandLine_iff : Speaks a.commandLine ↔ ∃ word ∈ a.command, Speaks word :=
  speaks_intercalate_iff

/-- Validation accepts exactly the arguments that keep the rules. -/
theorem validate_eq_ok_iff : a.validate = .ok () ↔ a.Accepted := by
  rw [validate, Result.andThen_eq_ok_iff, validateNotBlank_eq_ok_iff, speaks_commandLine_iff,
    validatePath, check_eq_ok_iff, pathOffence?_eq_none_iff]
  constructor
  · rintro ⟨hcommand, hne, hnul⟩
    exact ⟨hcommand, hne, hnul⟩
  · rintro ⟨hcommand, hne, hnul⟩
    exact ⟨hcommand, hne, hnul⟩

/-- Validation refuses all other arguments, on the first rule that they break. -/
theorem validate_eq_error_iff : a.validate = .error fault ↔ a.EarliestOffence fault := by
  rw [validate, Result.andThen_eq_error_iff, validateNotBlank_eq_ok_iff,
    validateNotBlank_eq_error_iff, speaks_commandLine_iff, validatePath_eq_error_iff]
  constructor
  · rintro (⟨hblank, rfl⟩ | ⟨hcommand, ⟨hempty, rfl⟩ | ⟨hnul, rfl⟩⟩)
    · exact .blankCommand fun word hword hspeaks => hblank ⟨word, hword, hspeaks⟩
    · exact .emptyRoot hcommand hempty
    · exact .nulInRoot hcommand hnul
  · intro h
    cases h with
    | blankCommand hblank =>
        exact .inl ⟨fun ⟨word, hword, hspeaks⟩ => hblank word hword hspeaks, rfl⟩
    | emptyRoot hcommand hempty => exact .inr ⟨hcommand, .inl ⟨hempty, rfl⟩⟩
    | nulInRoot hcommand hnul => exact .inr ⟨hcommand, .inr ⟨hnul, rfl⟩⟩

end SweepArguments

end PackageSweep
