import Mathlib.Data.List.TakeWhile
import PackageSweep.Json.Reader
import PackageSweep.Json.Writer

/-!
# Written values read back

What the writer puts on several lines, the reader takes apart again. A text is read back whatever
characters it has, since each one that could end it or begin an escape is escaped. A value is read
back with everything that comes after it left over, as long as it does not nest deeper than the
reader goes and what comes after does not go on with a number.
-/

namespace PackageSweep.Json

variable {c : Char} {cs rest : List Char}

/-! ## Texts -/

theorem hexFour?_controlNumeral :
    ∀ n < 0x20, hexFour? '0' '0' (n / 16).digitChar (n % 16).digitChar = some n := by
  decide

theorem textBody_control (hc : c.toNat < 0x20) (rest : List Char) :
    textBody (['\\', 'u', '0', '0'] ++ controlNumeral c ++ rest) =
      (textBody rest).map fun p => (c :: p.1, p.2) := by
  have hnumeral := hexFour?_controlNumeral c.toNat hc
  have htrail : isTrail c.toNat = false := by
    simp only [isTrail, Bool.and_eq_false_iff, decide_eq_false_iff_not]
    omega
  have hlead : isLead c.toNat = false := by
    simp only [isLead, Bool.and_eq_false_iff, decide_eq_false_iff_not]
    omega
  simp only [controlNumeral, List.cons_append, List.nil_append]
  rw [textBody]
  simp only [hnumeral, htrail, hlead, Bool.false_eq_true, if_false, Char.ofNat_toNat]

theorem textBody_plain (hquote : c ≠ '"') (hslash : c ≠ '\\') (hc : 0x20 ≤ c.toNat)
    (rest : List Char) : textBody (c :: rest) = (textBody rest).map fun p => (c :: p.1, p.2) := by
  have hallowed : ¬ (c.toNat < 0x20 ∨ c = '\\') := by
    rintro (hlt | hslash')
    · omega
    · exact hslash hslash'
  rw [textBody, if_neg hallowed]
  · exact hquote
  · intro _ _ _ _ _ hc _
    exact hslash hc
  · intro _ _ hc _
    exact hslash hc

/-- A character is read back from its escaped form, whatever it is. -/
theorem textBody_escaped (c : Char) (rest : List Char) :
    textBody (escaped c ++ rest) = (textBody rest).map fun p => (c :: p.1, p.2) := by
  rw [escaped]
  split
  · subst c
    rfl
  split
  · subst c
    rfl
  split
  · subst c
    rfl
  split
  · subst c
    rfl
  split
  · subst c
    rfl
  split
  · subst c
    rfl
  split
  · subst c
    rfl
  split
  · rename_i hc
    exact textBody_control hc rest
  · rename_i hquote hslash _ _ _ _ _ hc
    exact textBody_plain hquote hslash (Nat.le_of_not_lt hc) rest

theorem textBody_flatMap_escaped (cs rest : List Char) :
    textBody (cs.flatMap escaped ++ '"' :: rest) = some (cs, rest) := by
  induction cs with
  | nil => rfl
  | cons c cs ih =>
      rw [List.flatMap_cons, List.append_assoc, textBody_escaped, ih]
      rfl

theorem quotedText_append (s : String) (rest : List Char) :
    quotedText s ++ rest = '"' :: (s.toList.flatMap escaped ++ '"' :: rest) := by
  simp [quotedText]

/-! ## White space -/

theorem skipSpace_of_isSpace (h : isSpace c = true) (cs : List Char) :
    skipSpace (c :: cs) = skipSpace cs := by
  rw [skipSpace, List.dropWhile_cons_of_pos h]
  rfl

theorem skipSpace_of_not_isSpace (h : isSpace c = false) (cs : List Char) :
    skipSpace (c :: cs) = c :: cs := by
  rw [skipSpace, List.dropWhile_cons_of_neg (by simp [h])]

theorem skipSpace_newLine (level : Nat) (cs : List Char) :
    skipSpace (Value.newLine level ++ cs) = skipSpace cs := by
  rw [Value.newLine, List.cons_append, skipSpace_of_isSpace (by decide)]
  induction 2 * level with
  | zero => rfl
  | succ n ih => rw [List.replicate_succ, List.cons_append, skipSpace_of_isSpace (by decide), ih]

/-- White space before a value does not matter. -/
theorem value_of_skipSpace_eq {cs ds : List Char} (h : skipSpace cs = skipSpace ds)
    (fuel depth : Nat) : value fuel depth cs = value fuel depth ds := by
  cases fuel with
  | zero => rfl
  | succ fuel => rw [value, value, h]

/-! ## Values -/

/-- A value that the reader can take when this many levels are left: it nests no deeper, and its
numbers are spelled as numbers. -/
inductive Readable : Nat → Value → Prop where
  | null (depth : Nat) : Readable depth .null
  | bool (depth : Nat) (b : Bool) : Readable depth (.bool b)
  | number (depth : Nat) {spelling : List Char} (h : Number.read? spelling = some (spelling, [])) :
      Readable depth (.number spelling)
  | text (depth : Nat) (s : String) : Readable depth (.text s)
  | array {depth : Nat} {vs : List Value} (h : ∀ v ∈ vs, Readable depth v) :
      Readable (depth + 1) (.array vs)
  | object {depth : Nat} {ms : List (String × Value)} (h : ∀ m ∈ ms, Readable depth m.2) :
      Readable (depth + 1) (.object ms)

/-- What comes after a value does not go on with a number. -/
def EndsNumber (rest : List Char) : Prop := ∀ c cs, rest = c :: cs → Number.isPart c = false

/-- The value is read back from its several lines, with all that comes after it left over. -/
def ReadsBack (depth : Nat) (v : Value) : Prop :=
  ∀ level fuel rest, EndsNumber rest → 2 * (v.pretty level).length ≤ fuel →
    value fuel depth (v.pretty level ++ rest) = some (v, rest)

theorem endsNumber_cons (h : Number.isPart c = false) (cs : List Char) : EndsNumber (c :: cs) := by
  intro d ds heq
  obtain ⟨rfl, -⟩ := List.cons.inj heq
  exact h

theorem endsNumber_prettyItems (level : Nat) (vs : List Value) (rest : List Char) :
    EndsNumber (Value.prettyItems level vs ++ rest) := by
  cases vs <;> exact endsNumber_cons (by decide) _

theorem endsNumber_prettyMembers (level : Nat) (ms : List (String × Value)) (rest : List Char) :
    EndsNumber (Value.prettyMembers level ms ++ rest) := by
  cases ms with
  | nil => exact endsNumber_cons (by decide) _
  | cons m ms => exact endsNumber_cons (by decide) _

/-- A value is read back with white space before it. -/
theorem ReadsBack.value_of_skipSpace {depth fuel : Nat} {v : Value} (h : ReadsBack depth v)
    (level : Nat) (hskip : skipSpace cs = skipSpace (v.pretty level ++ rest))
    (hends : EndsNumber rest) (hfuel : 2 * (v.pretty level).length ≤ fuel) :
    value fuel depth cs = some (v, rest) := by
  rw [value_of_skipSpace_eq hskip]
  exact h level fuel rest hends hfuel

theorem length_newLine_pos (level : Nat) : 1 ≤ (Value.newLine level).length := by
  simp [Value.newLine]

section Sequences

variable {depth level fuel : Nat} {v : Value}

/-- An item is read first of the items that begin with it. -/
theorem value_item (h : ReadsBack depth v) (hends : EndsNumber rest)
    (hfuel : 2 * (v.pretty (level + 1)).length ≤ fuel) :
    value fuel depth (Value.newLine (level + 1) ++ v.pretty (level + 1) ++ rest) =
      some (v, rest) := by
  apply h.value_of_skipSpace (level + 1)
  · rw [List.append_assoc, skipSpace_newLine]
  · exact hends
  · exact hfuel

theorem items_prettyItems {vs : List Value} (h : ∀ u ∈ v :: vs, ReadsBack depth u) (fuel : Nat)
    (rest : List Char)
    (hfuel : 2 * (Value.newLine (level + 1) ++ v.pretty (level + 1) ++
      Value.prettyItems level vs).length ≤ fuel) :
    items fuel depth (Value.newLine (level + 1) ++ v.pretty (level + 1) ++
      Value.prettyItems level vs ++ rest) = some (v :: vs, rest) := by
  have hline := length_newLine_pos (level + 1)
  simp only [List.length_append] at hfuel
  induction vs generalizing v fuel with
  | nil =>
      obtain ⟨fuel, rfl⟩ : ∃ n, fuel = n + 1 := Nat.exists_eq_add_of_le' (by omega)
      have hvalue := value_item (h v List.mem_cons_self) (endsNumber_prettyItems level [] rest)
        (by omega : 2 * (v.pretty (level + 1)).length ≤ fuel)
      have hskip : skipSpace (Value.prettyItems level [] ++ rest) = ']' :: rest := by
        rw [Value.prettyItems, List.append_assoc, skipSpace_newLine]
        exact skipSpace_of_not_isSpace (by decide) _
      rw [List.append_assoc, items, hvalue]
      simp only [hskip]
  | cons u us ih =>
      obtain ⟨fuel, rfl⟩ : ∃ n, fuel = n + 1 := Nat.exists_eq_add_of_le' (by omega)
      have hvalue := value_item (h v List.mem_cons_self)
        (endsNumber_prettyItems level (u :: us) rest)
        (by omega : 2 * (v.pretty (level + 1)).length ≤ fuel)
      simp only [Value.prettyItems, List.length_cons, List.length_append] at hfuel
      have hrest := ih (fun x hx => h x (List.mem_cons_of_mem v hx)) fuel (by omega)
      have hskip : skipSpace (Value.prettyItems level (u :: us) ++ rest) =
          ',' :: (Value.newLine (level + 1) ++ u.pretty (level + 1) ++
            Value.prettyItems level us ++ rest) := by
        rw [Value.prettyItems]
        exact skipSpace_of_not_isSpace (by decide) _
      rw [List.append_assoc, items, hvalue]
      simp only [hskip, hrest, Option.map_some]

/-- The key of a member is read first of the members that begin with it. -/
theorem skipSpace_member (level : Nat) (k : String) (v : Value) (rest : List Char) :
    skipSpace (Value.newLine (level + 1) ++ quotedText k ++
      ':' :: ' ' :: v.pretty (level + 1) ++ rest) =
        '"' :: (k.toList.flatMap escaped ++
          '"' :: ':' :: ' ' :: (v.pretty (level + 1) ++ rest)) := by
  simp only [List.append_assoc, skipSpace_newLine, quotedText_append, List.cons_append]
  exact skipSpace_of_not_isSpace (by decide) _

theorem value_member (h : ReadsBack depth v) (hends : EndsNumber rest)
    (hfuel : 2 * (v.pretty (level + 1)).length ≤ fuel) :
    value fuel depth (' ' :: (v.pretty (level + 1) ++ rest)) = some (v, rest) := by
  apply h.value_of_skipSpace (level + 1)
  · exact skipSpace_of_isSpace (by decide) _
  · exact hends
  · exact hfuel

theorem skipSpace_colon (cs : List Char) : skipSpace (':' :: cs) = ':' :: cs :=
  skipSpace_of_not_isSpace (by decide) cs

theorem members_prettyMembers {k : String} {ms : List (String × Value)}
    (h : ∀ m ∈ (k, v) :: ms, ReadsBack depth m.2) (fuel : Nat) (rest : List Char)
    (hfuel : 2 * (Value.newLine (level + 1) ++ quotedText k ++ ':' :: ' ' :: v.pretty (level + 1) ++
      Value.prettyMembers level ms).length ≤ fuel) :
    members fuel depth (Value.newLine (level + 1) ++ quotedText k ++
      ':' :: ' ' :: v.pretty (level + 1) ++ Value.prettyMembers level ms ++ rest) =
        some ((k, v) :: ms, rest) := by
  simp only [List.length_append, List.length_cons] at hfuel
  induction ms generalizing k v fuel with
  | nil =>
      have hv : ReadsBack depth v := h (k, v) List.mem_cons_self
      obtain ⟨fuel, rfl⟩ : ∃ n, fuel = n + 1 := Nat.exists_eq_add_of_le' (by omega)
      have hvalue := value_member hv (endsNumber_prettyMembers level [] rest)
        (by omega : 2 * (v.pretty (level + 1)).length ≤ fuel)
      have hskip : skipSpace (Value.prettyMembers level [] ++ rest) = '\x7d' :: rest := by
        rw [Value.prettyMembers, List.append_assoc, skipSpace_newLine]
        exact skipSpace_of_not_isSpace (by decide) _
      rw [List.append_assoc, members, skipSpace_member]
      simp only [textBody_flatMap_escaped, skipSpace_colon, hvalue, hskip, String.ofList_toList]
  | cons m ms ih =>
      have hv : ReadsBack depth v := h (k, v) List.mem_cons_self
      obtain ⟨fuel, rfl⟩ : ∃ n, fuel = n + 1 := Nat.exists_eq_add_of_le' (by omega)
      have hvalue := value_member hv (endsNumber_prettyMembers level (m :: ms) rest)
        (by omega : 2 * (v.pretty (level + 1)).length ≤ fuel)
      simp only [Value.prettyMembers, List.length_cons, List.length_append] at hfuel
      have hrest := ih (fun x hx => h x (List.mem_cons_of_mem (k, v) hx)) fuel (by omega)
      have hskip : skipSpace (Value.prettyMembers level (m :: ms) ++ rest) =
          ',' :: (Value.newLine (level + 1) ++ quotedText m.1 ++
            ':' :: ' ' :: m.2.pretty (level + 1) ++ Value.prettyMembers level ms ++ rest) := by
        rw [Value.prettyMembers]
        exact skipSpace_of_not_isSpace (by decide) _
      rw [List.append_assoc, members, skipSpace_member]
      simp only [textBody_flatMap_escaped, skipSpace_colon, hvalue, hskip, hrest,
        Option.map_some, String.ofList_toList]

end Sequences

/-! ## Numbers -/

namespace Number

/-- What is read whole as a number has none but a number's characters, and is not empty. -/
theorem exists_cons_of_read? {spelling : List Char} (h : read? spelling = some (spelling, [])) :
    ∃ c cs, spelling = c :: cs ∧ ∀ d ∈ spelling, isPart d = true := by
  cases spelling with
  | nil => exact absurd h (by decide)
  | cons c cs =>
      refine ⟨c, cs, rfl, List.takeWhile_eq_self_iff.mp ?_⟩
      rw [read?] at h
      split at h
      · exact congrArg Prod.fst (Option.some.inj h)
      · simp at h

/-- A number is read in front of what does not go on with it. -/
theorem read?_append {spelling : List Char} (h : read? spelling = some (spelling, []))
    (hends : EndsNumber rest) : read? (spelling ++ rest) = some (spelling, rest) := by
  obtain ⟨-, -, -, hpart⟩ := exists_cons_of_read? h
  have hspelling : spelling.takeWhile isPart = spelling := List.takeWhile_eq_self_iff.mpr hpart
  have hrest : rest.takeWhile isPart = [] ∧ rest.dropWhile isPart = rest := by
    cases rest with
    | nil => exact ⟨rfl, rfl⟩
    | cons c cs => simp [hends c cs rfl]
  have htake : (spelling ++ rest).takeWhile isPart = spelling := by
    rw [List.takeWhile_append_of_pos hpart, hrest.1, List.append_nil]
  have hdrop : (spelling ++ rest).dropWhile isPart = rest := by
    rw [List.dropWhile_append_of_pos hpart, hrest.2]
  simp only [read?, hspelling] at h
  simp only [read?, htake, hdrop]
  split at h
  · rfl
  · simp at h

end Number

theorem value_number {spelling : List Char} (h : Number.read? spelling = some (spelling, []))
    (hends : EndsNumber rest) (fuel depth : Nat) :
    value (fuel + 1) depth (spelling ++ rest) = some (.number spelling, rest) := by
  obtain ⟨c, cs, rfl, hpart⟩ := Number.exists_cons_of_read? h
  have hne : ∀ d, Number.isPart d = false → c ≠ d := by
    rintro d hd rfl
    have hc := hpart c List.mem_cons_self
    simp [hd] at hc
  have hspace : isSpace c = false := by
    simp [isSpace, hne ' ' (by decide), hne '\n' (by decide), hne '\t' (by decide),
      hne '\r' (by decide)]
  have hread := Number.read?_append h hends
  rw [List.cons_append] at hread ⊢
  rw [value, skipSpace_of_not_isSpace hspace]
  split
  case h_1 r heq | h_2 r heq | h_3 r heq | h_4 r heq | h_5 r heq | h_6 r heq =>
    exact absurd (List.cons.inj heq).1 (hne _ (by decide))
  case h_7 => rw [hread]; rfl

theorem readsBack_number {spelling : List Char} (h : Number.read? spelling = some (spelling, []))
    (depth : Nat) : ReadsBack depth (.number spelling) := by
  intro level fuel rest hends hfuel
  cases fuel with
  | zero =>
      obtain ⟨c, cs, rfl, -⟩ := Number.exists_cons_of_read? h
      simp [Value.pretty] at hfuel
  | succ fuel => exact value_number h hends fuel depth

/-! ## Everything else -/

theorem readsBack_text (depth : Nat) (s : String) : ReadsBack depth (.text s) := by
  intro level fuel rest _ hfuel
  cases fuel with
  | zero => simp [Value.pretty, quotedText] at hfuel
  | succ fuel =>
      rw [Value.pretty, quotedText_append, value, skipSpace_of_not_isSpace (by decide)]
      simp only [textBody_flatMap_escaped, Option.map_some, String.ofList_toList]

theorem readsBack_null (depth : Nat) : ReadsBack depth .null := by
  intro level fuel rest _ hfuel
  cases fuel with
  | zero => simp [Value.pretty] at hfuel
  | succ fuel => rfl

theorem readsBack_bool (depth : Nat) (b : Bool) : ReadsBack depth (.bool b) := by
  intro level fuel rest _ hfuel
  cases fuel with
  | zero => cases b <;> simp [Value.pretty] at hfuel
  | succ fuel => cases b <;> rfl

/-- Items do not begin with the end of an array. -/
theorem skipSpace_ne_of_items {fuel depth : Nat} {p : List Value × List Char}
    (h : items fuel depth cs = some p) (r : List Char) : skipSpace cs ≠ ']' :: r := by
  intro hskip
  obtain _ | _ | fuel := fuel
  · simp [items] at h
  · simp [items, value] at h
  · have hread : Number.read? (']' :: r) = none := rfl
    rw [items, value, hskip] at h
    simp [hread] at h

/-- Members do not begin with the end of an object. -/
theorem skipSpace_ne_of_members {fuel depth : Nat} {p : List (String × Value) × List Char}
    (h : members fuel depth cs = some p) (r : List Char) : skipSpace cs ≠ '\x7d' :: r := by
  intro hskip
  cases fuel with
  | zero => simp [members] at h
  | succ fuel => simp [members, hskip] at h

theorem readsBack_array {depth : Nat} {vs : List Value} (h : ∀ v ∈ vs, ReadsBack depth v) :
    ReadsBack (depth + 1) (.array vs) := by
  intro level fuel rest _ hfuel
  cases fuel with
  | zero => cases vs <;> simp [Value.pretty] at hfuel
  | succ fuel =>
      cases vs with
      | nil => rfl
      | cons v vs =>
          simp only [Value.pretty, List.length_cons] at hfuel
          have hitems := @items_prettyItems depth level v vs h fuel rest (by omega)
          have hne := skipSpace_ne_of_items hitems
          rw [Value.pretty, List.cons_append, value, skipSpace_of_not_isSpace (by decide)]
          -- `hne` rules the branch of the empty array out.
          simp only [hitems, Option.map_some]

theorem readsBack_object {depth : Nat} {ms : List (String × Value)}
    (h : ∀ m ∈ ms, ReadsBack depth m.2) : ReadsBack (depth + 1) (.object ms) := by
  intro level fuel rest _ hfuel
  cases fuel with
  | zero => rcases ms with _ | ⟨⟨k, v⟩, ms⟩ <;> simp [Value.pretty] at hfuel
  | succ fuel =>
      rcases ms with _ | ⟨⟨k, v⟩, ms⟩
      · rfl
      · simp only [Value.pretty, List.length_cons] at hfuel
        have hmembers := @members_prettyMembers depth level v k ms h fuel rest (by omega)
        have hne := skipSpace_ne_of_members hmembers
        rw [Value.pretty, List.cons_append, value, skipSpace_of_not_isSpace (by decide)]
        -- `hne` rules the branch of the empty object out.
        simp only [hmembers, Option.map_some]

/-- What the reader can take, it reads back. -/
theorem Readable.readsBack {depth : Nat} {v : Value} (h : Readable depth v) :
    ReadsBack depth v := by
  induction h with
  | null depth => exact readsBack_null depth
  | bool depth b => exact readsBack_bool depth b
  | number depth h => exact readsBack_number h depth
  | text depth s => exact readsBack_text depth s
  | array _ ih => exact readsBack_array ih
  | object _ ih => exact readsBack_object ih

/-- A value that is written on several lines, with white space after it, is parsed back. -/
theorem parse?_pretty {v : Value} (h : Readable maxDepth v) (hspace : skipSpace rest = []) :
    parse? (v.pretty 0 ++ rest) = some v := by
  have hends : EndsNumber rest := by
    rintro c cs rfl
    have hc : isSpace c = true := List.dropWhile_eq_nil_iff.mp hspace c List.mem_cons_self
    simp only [isSpace, Bool.or_eq_true, beq_iff_eq] at hc
    rcases hc with ((rfl | rfl) | rfl) | rfl <;> decide
  have hread := h.readsBack 0 (2 * (v.pretty 0 ++ rest).length + 2) rest hends
    (by rw [List.length_append]; omega)
  rw [parse?, hread]
  simp only [hspace, if_true]

end PackageSweep.Json
