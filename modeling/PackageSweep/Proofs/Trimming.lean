import PackageSweep.Text.Blank

/-!
# Trimming

What trimming leaves is told by three things: only blanks stand around it, and it neither begins nor
ends with one. Trimming at the end is trimming at the start of the text read backwards, so the laws
are proved for the start alone.
-/

namespace PackageSweep.Text

/-- One text is another one without the blanks at its ends. -/
structure Trims (text inner : List Char) : Prop where
  surrounded : ∃ before after, text = before ++ inner ++ after ∧
    (∀ c ∈ before, isBlank c) ∧ ∀ c ∈ after, isBlank c
  head_not_blank : ∀ c, inner.head? = some c → isBlank c = false
  last_not_blank : ∀ c, inner.getLast? = some c → isBlank c = false

variable {before cs after text inner : List Char}

theorem trimEnd_eq_reverse (cs : List Char) : trimEnd cs = (trimStart cs.reverse).reverse := rfl

theorem trimStart_append_of_blank (h : ∀ c ∈ before, isBlank c) :
    trimStart (before ++ cs) = trimStart cs :=
  List.dropWhile_append_of_pos h

theorem trimStart_eq_self (h : ∀ c, cs.head? = some c → isBlank c = false) :
    trimStart cs = cs := by
  cases cs with
  | nil => rfl
  | cons c cs =>
      have hc : isBlank c = false := h c rfl
      exact List.dropWhile_cons_of_neg (by simp [hc])

theorem head?_trimStart_not_blank {c : Char} (h : (trimStart cs).head? = some c) :
    isBlank c = false := by
  have hhead := List.head?_dropWhile_not isBlank cs
  rw [trimStart] at h
  rw [h] at hhead
  exact hhead

theorem exists_blank_append_trimStart (cs : List Char) :
    ∃ before, cs = before ++ trimStart cs ∧ ∀ c ∈ before, isBlank c := by
  have hblank : (cs.takeWhile isBlank).all isBlank = true := List.all_takeWhile
  exact ⟨cs.takeWhile isBlank, List.takeWhile_append_dropWhile.symm, List.all_eq_true.mp hblank⟩

theorem exists_trimEnd_append_blank (cs : List Char) :
    ∃ after, cs = trimEnd cs ++ after ∧ ∀ c ∈ after, isBlank c := by
  obtain ⟨before, hcs, hblank⟩ := exists_blank_append_trimStart cs.reverse
  refine ⟨before.reverse, ?_, fun c hc => hblank c (List.mem_reverse.mp hc)⟩
  rw [trimEnd_eq_reverse, ← List.reverse_append, ← hcs, List.reverse_reverse]

theorem trimEnd_append_of_blank (h : ∀ c ∈ after, isBlank c) :
    trimEnd (cs ++ after) = trimEnd cs := by
  have hreverse : ∀ c ∈ after.reverse, isBlank c := fun c hc => h c (List.mem_reverse.mp hc)
  rw [trimEnd_eq_reverse, List.reverse_append, trimStart_append_of_blank hreverse,
    ← trimEnd_eq_reverse]

theorem trimEnd_eq_self (h : ∀ c, cs.getLast? = some c → isBlank c = false) : trimEnd cs = cs := by
  have hreverse : ∀ c, cs.reverse.head? = some c → isBlank c = false := by
    intro c hc
    rw [List.head?_reverse] at hc
    exact h c hc
  rw [trimEnd_eq_reverse, trimStart_eq_self hreverse, List.reverse_reverse]

theorem getLast?_trimEnd_not_blank {c : Char} (h : (trimEnd cs).getLast? = some c) :
    isBlank c = false := by
  rw [trimEnd_eq_reverse, List.getLast?_reverse] at h
  exact head?_trimStart_not_blank h

theorem trims_trim (text : List Char) : Trims text (trim text) := by
  obtain ⟨before, hstart, hbefore⟩ := exists_blank_append_trimStart text
  obtain ⟨after, hend, hafter⟩ := exists_trimEnd_append_blank (trimStart text)
  refine ⟨⟨before, after, ?_, hbefore, hafter⟩, ?_, fun c hc => getLast?_trimEnd_not_blank hc⟩
  · rw [List.append_assoc]
    calc
      text = before ++ trimStart text := hstart
      _ = before ++ (trim text ++ after) := congrArg (before ++ ·) hend
  · intro c hc
    have hhead : (trimStart text).head? = some c := by
      rw [hend, List.head?_append]
      exact Option.or_eq_some_iff.mpr (.inl hc)
    exact head?_trimStart_not_blank hhead

theorem Trims.trim_eq (h : Trims text inner) : trim text = inner := by
  obtain ⟨before, after, rfl, hbefore, hafter⟩ := h.surrounded
  rw [trim, List.append_assoc, trimStart_append_of_blank hbefore]
  cases inner with
  | nil =>
      have hnil : trimStart after = [] := trimStart_eq_nil_iff.mpr (List.all_eq_true.mpr hafter)
      rw [List.nil_append, hnil]
      rfl
  | cons c cs =>
      have hhead : trimStart (c :: cs ++ after) = c :: cs ++ after :=
        trimStart_eq_self h.head_not_blank
      rw [hhead, trimEnd_append_of_blank hafter, trimEnd_eq_self h.last_not_blank]

end PackageSweep.Text
