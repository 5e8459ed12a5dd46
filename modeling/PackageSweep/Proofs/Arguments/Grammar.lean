import PackageSweep.Arguments.Grammar

/-!
# What the grammar does with an argument

All that is used of the grammar when a command line is read, for any program that has one: how
settings are recorded, what an argument looks like by its dashes, and what an option does that the
program has. What waits for a value is settled by the next argument, so two states count as the same
when they settle to the same options.
-/

namespace PackageSweep

namespace Arguments

/-- A text that can be the value of an option: it is not empty and no dash is in front. -/
def IsValue (text : String) : Prop := text ≠ "" ∧ text.toList.head? ≠ some '-'

namespace Options

def recordAll (cs : List (Setting × String)) (o : Options) : Options :=
  cs.foldl (fun o c => o.record c.1 c.2) o

variable {o : Options} {k l : Setting} {value : String}

theorem has_record_of_ne (h : k ≠ l) : (o.record l value).has k = o.has k := by
  cases k <;> cases l <;> first | rfl | exact absurd rfl h

theorem recordAll_append (cs ds : List (Setting × String)) (o : Options) :
    o.recordAll (cs ++ ds) = (o.recordAll cs).recordAll ds := List.foldl_append

theorem has_recordAll {cs : List (Setting × String)} (h : k ∉ cs.map Prod.fst) :
    (o.recordAll cs).has k = o.has k := by
  induction cs generalizing o with
  | nil => rfl
  | cons c cs ih =>
      rw [List.map_cons, List.mem_cons, not_or] at h
      rw [recordAll, List.foldl_cons]
      exact (ih h.2).trans (has_record_of_ne h.1)

theorem record_comm (h : k ≠ l) (v w : String) (o : Options) :
    (o.record k v).record l w = (o.record l w).record k v := by
  cases k <;> cases l <;> first | rfl | exact absurd rfl h

end Options

namespace State

variable {s : State} {o : Options} {k : Setting} {value : String}

theorem supply_eq_ok (hnew : o.has k = false) (hvalue : IsValue value) :
    supply k value o = .ok (o.record k value) := by
  simp [supply, hnew, hvalue.1]

theorem expect_eq_ok (h : s.settle = .ok o) : s.expect k = .ok ⟨o, some (k, none)⟩ := by
  rw [expect, h]
  rfl

theorem give_eq_ok (h : s.settle = .ok o) (hnew : o.has k = false) (hvalue : IsValue value) :
    s.give k value = .ok ⟨o.record k value, none⟩ := by
  rw [give, h, Except.bind, supply_eq_ok hnew hvalue]
  rfl

theorem raise_eq_ok (h : s.settle = .ok o) (hnew : o.has k = false) (hk : k ≠ .help) :
    s.raise k = .ok ⟨o.record k "", none⟩ := by
  rw [raise, h, Except.bind, if_neg hk, hnew]
  rfl

end State

namespace Shape

variable {cs name : List Char} {value : Option (List Char)}

theorem of_isValue {text : String} (h : IsValue text) : Shape.of text.toList = .word := by
  obtain ⟨-, hhead⟩ := h
  cases hcs : text.toList with
  | nil => rfl
  | cons c cs =>
      rw [hcs, List.head?_cons, ne_eq, Option.some.injEq] at hhead
      simp [Shape.of, hhead]

/-- What a long option looks like. -/
theorem eq_of_of_eq_long (h : Shape.of cs = .long name value) :
    cs = '-' :: '-' :: name ∨ ∃ v, cs = '-' :: '-' :: (name ++ '=' :: v) := by
  fun_cases Shape.of cs with
  | case2 cs hdashes =>
      rw [Shape.of] at h
      · obtain ⟨rfl, -⟩ := Shape.long.inj h
        have hsplit := List.takeWhile_append_dropWhile (p := (· != '=')) (l := cs)
        cases hrest : cs.dropWhile (· != '=') with
        | nil =>
            rw [hrest, List.append_nil] at hsplit
            exact .inl (by rw [hsplit])
        | cons c v =>
            have hc := List.head_dropWhile_not (· != '=') (l := cs) (by simp [hrest])
            simp only [hrest, List.head_cons, bne_eq_false_iff_eq] at hc
            rw [hrest, hc] at hsplit
            exact .inr ⟨v, by rw [hsplit]⟩
      · exact hdashes
  | _ => simp_all [Shape.of]

/-- What letters look like. -/
theorem eq_of_of_eq_letters {letters : List Char} (h : Shape.of cs = .letters letters) :
    cs = '-' :: letters ∧ letters ≠ [] := by
  fun_cases Shape.of cs with
  | _ => simp_all [Shape.of]

theorem eq_of_of_eq_dashes (h : Shape.of cs = .dashes) : cs = ['-', '-'] := by
  fun_cases Shape.of cs with
  | _ => simp_all [Shape.of]

end Shape

namespace Grammar

variable {g : Grammar} {s t : State} {o : Options} {k : Setting} {a : String} {as : List String}
  {shape : Shape}

theorem readFrom_option (hshape : Shape.of a.toList = shape)
    (h : g.option? s shape = some (.ok t)) : g.readFrom s (a :: as) = g.readFrom t as := by
  rw [readFrom, hshape]
  cases shape with
  | dashes => simp [option?] at h
  | word => simp [option?] at h
  | long name value => simp only [h, Except.bind]
  | letters cs => simp only [h, Except.bind]

/-! ### Long options -/

theorem option?_next {name : List Char} (hname : g.byName? name = some k)
    (htakes : k.takesValue = true) (h : s.settle = .ok o) :
    g.option? s (.long name none) = some (.ok ⟨o, some (k, none)⟩) := by
  simp only [option?, hname, takeLong, htakes, State.expect_eq_ok h]

theorem option?_equals {name : List Char} {value : String} (hname : g.byName? name = some k)
    (htakes : k.takesValue = true) (h : s.settle = .ok o) (hnew : o.has k = false)
    (hvalue : IsValue value) :
    g.option? s (.long name (some value.toList)) = some (.ok ⟨o.record k value, none⟩) := by
  simp only [option?, hname, takeLong, htakes, String.ofList_toList,
    State.give_eq_ok h hnew hvalue]

theorem option?_switch {name : List Char} (hname : g.byName? name = some k)
    (htakes : k.takesValue = false) (hhelp : k ≠ .help) (h : s.settle = .ok o)
    (hnew : o.has k = false) :
    g.option? s (.long name none) = some (.ok ⟨o.record k "", none⟩) := by
  simp only [option?, hname, takeLong, htakes, State.raise_eq_ok h hnew hhelp]

/-! ### Letters -/

theorem option?_letters {cs : List Char} (hknown : cs.all fun c => (g.byLetter? c).isSome)
    (s : State) : g.option? s (.letters cs) = some (g.takeLetters s cs) := by
  simp only [option?, hknown, Bool.not_true, Bool.and_false, Bool.false_eq_true, if_false]

theorem takeLetters_next {c : Char} (hletter : g.byLetter? c = some k)
    (htakes : k.takesValue = true) (h : s.settle = .ok o) :
    g.takeLetters s [c] = .ok ⟨o, some (k, none)⟩ := by
  simp only [takeLetters, hletter, htakes, if_true, State.expect_eq_ok h]

theorem takeLetters_switch {c : Char} (hletter : g.byLetter? c = some k)
    (htakes : k.takesValue = false) (hhelp : k ≠ .help) (h : s.settle = .ok o)
    (hnew : o.has k = false) (cs : List Char) :
    g.takeLetters s (c :: cs) = g.takeLetters ⟨o.record k "", none⟩ cs := by
  simp only [takeLetters, hletter, htakes, Bool.false_eq_true, if_false,
    State.raise_eq_ok h hnew hhelp, Except.bind]

/-! ### What is left to be settled -/

/-- An option that takes the next argument as its value leaves it to be settled. -/
theorem exists_readFrom_next {value : String} (hshape : Shape.of a.toList = shape)
    (h : g.option? s shape = some (.ok ⟨o, some (k, none)⟩)) (hnew : o.has k = false)
    (hvalue : IsValue value) :
    ∃ t : State, t.settle = .ok (o.record k value) ∧
      g.readFrom s (a :: value :: as) = g.readFrom t as := by
  refine ⟨⟨o, some (k, some value)⟩, State.supply_eq_ok hnew hvalue, ?_⟩
  rw [readFrom_option hshape h, readFrom, Shape.of_isValue hvalue]
  rfl

/-- An option that is complete by itself leaves nothing to be settled. -/
theorem exists_readFrom_done (hshape : Shape.of a.toList = shape)
    (h : g.option? s shape = some (.ok ⟨o, none⟩)) :
    ∃ t : State, t.settle = .ok o ∧ g.readFrom s (a :: as) = g.readFrom t as :=
  ⟨⟨o, none⟩, rfl, readFrom_option hshape h⟩

/-! ### The command -/

/-- The end of the options: the one that waits is settled, and what follows is the command. -/
theorem finish_eq_ok (hcommand : g.takesCommand = true) (h : s.settle = .ok o) (hne : as ≠ []) :
    g.finish s as = .ok (o, as) := by
  rw [finish, h, Except.bind, if_pos hcommand, if_neg hne]

theorem readFrom_dashes (hcommand : g.takesCommand = true) (h : s.settle = .ok o)
    (hne : as ≠ []) : g.readFrom s ("--" :: as) = .ok (o, as) := finish_eq_ok hcommand h hne

/-- An argument that is no option begins the command, when no option waits for its value. -/
theorem readFrom_command (hcommand : g.takesCommand = true) (h : s.settle = .ok o) (ha : a ≠ "--")
    (hnone : g.option? s (Shape.of a.toList) = none) :
    g.readFrom s (a :: as) = .ok (o, a :: as) := by
  have hfinish : g.finish s (a :: as) = .ok (o, a :: as) := finish_eq_ok hcommand h (by simp)
  rw [readFrom]
  split
  · rename_i hdashes
    exact absurd (String.toList_injective (Shape.eq_of_of_eq_dashes hdashes)) ha
  · rw [hnone]
    dsimp only
    split
    · rename_i hwaiting
      simp [State.settle, hwaiting] at h
    · exact hfinish

end Grammar

end Arguments

end PackageSweep
