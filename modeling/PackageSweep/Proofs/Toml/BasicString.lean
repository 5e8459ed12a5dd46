import PackageSweep.Toml.Text

/-!
# Texts between double quotes

A text without quotes, backslashes and control characters is read between double quotes as it is. It
is the only kind that is: reading gives back less than it takes where there is an escape, so a text
with one is never read as itself, not even where the reader runs over the closing quote into what
follows.
-/

namespace PackageSweep.Toml.Text

/-- A text that stands between double quotes as it is. -/
def Clean (s : List Char) : Prop := ∀ c ∈ s, c ≠ '"' ∧ c ≠ '\\' ∧ isControl c = false

instance (s : List Char) : Decidable (Clean s) := List.decidableBAll _ s

/-- What follows a string in an array. -/
def EndsItem (c : Char) : Prop := c = ',' ∨ c = ']'

/-- The reader takes a string off the front of a text, up to so many quotes that close it. Where it
does not take a character for itself, it takes an escaped quote or gives less than it takes. -/
inductive Reads (quotes : Nat) : List Char → List Char → List Char → Prop
  | close (k : Nat) {rest : List Char} (hk : k < quotes) :
      Reads quotes (List.replicate (k + quotes) '"' ++ rest) (List.replicate k '"') rest
  | char {c : Char} {cs s rest : List Char} (hslash : c ≠ '\\')
      (hone : quotes = 1 → c ≠ '"' ∧ isControl c = false) (h : Reads quotes cs s rest) :
      Reads quotes (c :: cs) (c :: s) rest
  | quote {cs s rest : List Char} (h : Reads quotes cs s rest) :
      Reads quotes ('\\' :: '"' :: cs) ('"' :: s) rest
  | shorter (used given : List Char) {cs s rest : List Char} (hquote : '"' ∉ used)
      (hhead : ∀ c ∈ used.head?, ¬ EndsItem c) (hlength : given.length < used.length)
      (h : Reads quotes cs s rest) : Reads quotes (used ++ cs) (given ++ s) rest

variable {quotes : Nat} {c : Char} {cs s rest x y : List Char} {fold : Fold}

/-! ## What the readers do -/

theorem map_before_eq_some {found : Option (List Char × List Char)}
    (h : found.map (before c) = some (s, rest)) :
    ∃ s', found = some (s', rest) ∧ s = c :: s' := by
  obtain ⟨⟨s', rest'⟩, hfound, heq⟩ := Option.map_eq_some_iff.mp h
  obtain ⟨rfl, rfl⟩ := Prod.mk.inj heq
  exact ⟨s', hfound, rfl⟩

theorem quote_notMem_of_hex? {ds : List Char} (h : hex? ds = some c) : '"' ∉ ds := by
  rw [hex?] at h
  split at h
  · rename_i hall
    intro hmem
    exact absurd (List.all_eq_true.mp hall _ hmem) (by decide)
  · simp at h

/-- The reader goes over white space, line breaks and a backslash before them. -/
theorem Reads.skip (used : List Char) (hne : used ≠ [])
    (hused : ∀ c ∈ used, c ∈ ['\\', ' ', '\t', '\n', '\r']) (h : Reads quotes cs s rest) :
    Reads quotes (used ++ cs) s rest := by
  refine .shorter used [] ?_ ?_ (List.length_pos_iff.mpr hne) h
  · intro hmem
    exact absurd (hused _ hmem) (by decide)
  · intro c hc hends
    have hmem := hused c (List.mem_of_mem_head? hc)
    rcases hends with rfl | rfl
    · exact absurd hmem (by decide)
    · exact absurd hmem (by decide)

theorem Reads.hex {d : Char} {ds : List Char} (hd : d ≠ '"') (hds : hex? ds = some c)
    (h : Reads quotes cs s rest) : Reads quotes ('\\' :: d :: ds ++ cs) (c :: s) rest :=
  .shorter ('\\' :: d :: ds) [c] (by simp [quote_notMem_of_hex? hds, Ne.symm hd])
    (by simp [EndsItem]) (by simp) h

theorem Reads.short {d : Char} (hd : shortEscape? d = some c) (h : Reads quotes cs s rest) :
    Reads quotes ('\\' :: d :: cs) (c :: s) rest := by
  by_cases hquote : d = '"'
  · subst hquote
    obtain rfl : '"' = c := by simpa [shortEscape?] using hd
    exact .quote h
  · exact .shorter ['\\', d] [c] (by simp [Ne.symm hquote]) (by simp [EndsItem]) (by simp) h

theorem reads_basic (h : basic cs = some (s, rest)) : Reads 1 cs s rest := by
  fun_induction basic cs generalizing s rest with
  | case1 r =>
      obtain ⟨rfl, rfl⟩ := Prod.mk.inj (Option.some.inj h)
      exact .close 0 Nat.one_pos
  | case2 a b r c hds ih | case4 a b c d r c' hds ih | case6 a b c d e f g h' r c' hds ih =>
      obtain ⟨s, hs, rfl⟩ := map_before_eq_some h
      exact .hex (by decide) hds (ih hs)
  | case8 c r _ _ _ d hd ih =>
      obtain ⟨s, hs, rfl⟩ := map_before_eq_some h
      exact .short hd (ih hs)
  | case11 c r hquote _ _ _ _ hc ih =>
      obtain ⟨s, hs, rfl⟩ := map_before_eq_some h
      rw [not_or, Bool.not_eq_true] at hc
      exact .char hc.2 (fun _ => ⟨hquote, hc.1⟩) (ih hs)
  | _ => simp at h

theorem reads_closing? (h : closing? '"' cs = some (s, rest)) : Reads 3 cs s rest := by
  fun_cases closing? '"' cs with
  | case1 a b c hquotes d e r htwo =>
      obtain ⟨⟨rfl, rfl, rfl⟩, rfl, rfl⟩ := hquotes, htwo
      obtain ⟨rfl, rfl⟩ : ['"', '"'] = s ∧ r = rest := by simpa [closing?] using h
      exact .close 2 (by decide)
  | case2 a b c hquotes e r htwo =>
      obtain ⟨rfl, rfl, rfl⟩ := hquotes
      obtain ⟨rfl, rfl⟩ : ['"'] = s ∧ e :: r = rest := by
        simpa [closing?, show e ≠ '"' by simpa using htwo] using h
      exact .close 1 (by decide)
  | case3 a b c hquotes d e r htwo hone =>
      obtain ⟨rfl, rfl, rfl⟩ := hquotes
      obtain ⟨rfl, rfl⟩ : [] = s ∧ d :: e :: r = rest := by simpa [closing?, hone] using h
      exact .close 0 (by decide)
  | case4 a b c hquotes =>
      obtain ⟨rfl, rfl, rfl⟩ := hquotes
      obtain ⟨rfl, rfl⟩ : ['"'] = s ∧ [] = rest := by simpa [closing?] using h
      exact .close 1 (by decide)
  | case5 a b c hquotes d hone =>
      obtain ⟨rfl, rfl, rfl⟩ := hquotes
      obtain ⟨rfl, rfl⟩ : [] = s ∧ [d] = rest := by simpa [closing?, hone] using h
      exact .close 0 (by decide)
  | case6 a b c hquotes =>
      obtain ⟨rfl, rfl, rfl⟩ := hquotes
      obtain ⟨rfl, rfl⟩ : [] = s ∧ [] = rest := by simpa [closing?] using h
      exact .close 0 (by decide)
  | case7 a b c r hquotes => simp [closing?, hquotes] at h
  | case8 hshort => simp [closing?] at h

theorem reads_basicLines (h : basicLines fold cs = some (s, rest)) : Reads 3 cs s rest := by
  fun_induction basicLines fold cs generalizing s rest with
  | case2 c r hc ih =>
      rcases hc with rfl | rfl
      · exact .skip [' '] (by simp) (by simp) (ih h)
      · exact .skip ['\t'] (by simp) (by simp) (ih h)
  | case3 r _ ih => exact .skip ['\n'] (by simp) (by simp) (ih h)
  | case4 r _ ih => exact .skip ['\r', '\n'] (by simp) (by simp) (ih h)
  | case6 fold c r _ hc ih =>
      obtain ⟨-, rfl | rfl | rfl⟩ := hc
      · exact .skip [' '] (by simp) (by simp) (ih h)
      · exact .skip ['\t'] (by simp) (by simp) (ih h)
      · exact .skip ['\n'] (by simp) (by simp) (ih h)
  | case7 fold c r _ _ found hfound =>
      obtain rfl := Option.some.inj h
      exact reads_closing? hfound
  | case8 r _ _ _ ih => exact .skip ['\r', '\n'] (by simp) (by simp) (ih h)
  | case9 fold _ r _ _ _ ih =>
      rw [← Option.map_map] at h
      obtain ⟨s', hs', rfl⟩ := map_before_eq_some h
      obtain ⟨s, hs, rfl⟩ := map_before_eq_some hs'
      exact .char (by decide) (by simp) (.char (by decide) (by simp) (ih hs))
  | case10 fold _ r _ _ ih =>
      obtain ⟨s, hs, rfl⟩ := map_before_eq_some h
      exact .char (by decide) (by simp) (ih hs)
  | case11 fold _ a b r c hds _ _ ih | case13 fold _ a b c d r c' hds _ _ ih
  | case15 fold _ a b c d e f g h' r c' hds _ _ ih =>
      obtain ⟨s, hs, rfl⟩ := map_before_eq_some h
      exact .hex (by decide) hds (ih hs)
  | case17 fold _ d r _ _ _ c hd _ _ ih =>
      obtain ⟨s, hs, rfl⟩ := map_before_eq_some h
      exact .short hd (ih hs)
  | case18 fold _ d r _ _ _ _ hd _ _ ih =>
      rcases hd with rfl | rfl
      · exact .skip ['\\', ' '] (by simp) (by simp) (ih h)
      · exact .skip ['\\', '\t'] (by simp) (by simp) (ih h)
  | case19 _ _ _ _ _ _ _ _ _ _ ih => exact .skip ['\\', '\n'] (by simp) (by simp) (ih h)
  | case20 _ _ _ _ _ _ _ _ _ _ ih => exact .skip ['\\', '\r', '\n'] (by simp) (by simp) (ih h)
  | case23 fold c r _ _ _ _ _ _ _ hc _ _ ih =>
      obtain ⟨s, hs, rfl⟩ := map_before_eq_some h
      rw [not_or] at hc
      exact .char hc.2 (by simp) (ih hs)
  | _ => simp at h

/-! ## What is read -/

theorem Reads.length_le (h : Reads quotes cs s rest) :
    s.length + quotes + rest.length ≤ cs.length := by
  induction h with
  | close k hk => simp
  | char hslash hone h ih => simpa [Nat.add_right_comm _ 1] using ih
  | quote h ih =>
      simp only [List.length_cons]
      omega
  | shorter used given hquote hhead hlength h ih =>
      simp only [List.length_append]
      omega

/-- Where reading gives as much as it takes, it takes every character for itself. -/
theorem Reads.clean_of_length_le (h : Reads 1 cs s rest)
    (hlength : cs.length ≤ s.length + 1 + rest.length) : Clean s ∧ cs = s ++ '"' :: rest := by
  induction h with
  | close k hk =>
      obtain rfl : k = 0 := by omega
      exact ⟨by simp [Clean], by simp⟩
  | @char c cs s rest hslash hone h ih =>
      obtain ⟨hclean, rfl⟩ := ih (by simpa [Nat.add_right_comm _ 1] using hlength)
      refine ⟨?_, rfl⟩
      intro d hd
      rcases List.mem_cons.mp hd with rfl | hd
      · exact ⟨(hone rfl).1, hslash, (hone rfl).2⟩
      · exact hclean d hd
  | quote h ih =>
      have hle := h.length_le
      simp only [List.length_cons] at hlength
      omega
  | shorter used given hquote hhead hshorter h ih =>
      have hle := h.length_le
      simp only [List.length_append] at hlength
      omega

/-- A character that ends an item stands for itself inside of a string. -/
theorem Reads.exists_cons (hc : EndsItem c) (h : Reads quotes (c :: cs) s rest) :
    ∃ s', s = c :: s' := by
  generalize htext : c :: cs = text at h
  cases h with
  | @close k rest hk =>
      obtain ⟨n, hn⟩ : ∃ n, k + quotes = n + 1 := ⟨k + quotes - 1, by omega⟩
      rw [hn, List.replicate_succ, List.cons_append] at htext
      rw [(List.cons.inj htext).1] at hc
      exact absurd hc (by simp [EndsItem])
  | @char d cs s rest hslash hone h => exact ⟨s, by rw [(List.cons.inj htext).1]⟩
  | quote h =>
      rw [(List.cons.inj htext).1] at hc
      exact absurd hc (by simp [EndsItem])
  | shorter used given hquote hhead hshorter h =>
      obtain ⟨d, used, rfl⟩ := List.exists_cons_of_length_pos (Nat.zero_lt_of_lt hshorter)
      rw [(List.cons.inj htext).1] at hc
      exact absurd hc (hhead d rfl)

/-- A reader that runs over a quote at the end of an item gives this quote back, and not later than
it stands. -/
theorem Reads.exists_quote (hc : EndsItem c) (h : Reads quotes (x ++ '"' :: c :: y) s rest)
    (hover : rest.length ≤ y.length) :
    ∃ s₁ s₂, s = s₁ ++ '"' :: c :: s₂ ∧ s₁.length ≤ x.length ∧
      (quotes = 1 → s₁.length < x.length) := by
  generalize htext : x ++ '"' :: c :: y = text at h
  induction h generalizing x with
  | @close k rest hk =>
      -- The closing quotes would reach over the character after the quote, which is none.
      have hlength := congrArg List.length htext
      have hget := congrArg (fun cs => cs[x.length + 1]?) htext
      simp only [List.length_append, List.length_cons, List.length_replicate] at hlength
      have hlt : x.length + 1 < k + quotes := by omega
      rw [List.getElem?_append_right (by omega), List.getElem?_append_left (by simpa using hlt),
        List.getElem?_replicate_of_lt hlt, Nat.add_sub_cancel_left] at hget
      obtain rfl : c = '"' := by simpa using hget
      exact absurd hc (by simp [EndsItem])
  | @char d cs s rest hslash hone h ih =>
      cases x with
      | nil =>
          obtain ⟨rfl, rfl⟩ := List.cons.inj htext
          obtain ⟨s', rfl⟩ := h.exists_cons hc
          exact ⟨[], s', rfl, Nat.le_refl _, fun hquotes => absurd rfl (hone hquotes).1⟩
      | cons a x =>
          obtain ⟨rfl, htail⟩ := List.cons.inj htext
          obtain ⟨s₁, s₂, rfl, hle, hlt⟩ := ih hover htail
          exact ⟨a :: s₁, s₂, rfl, Nat.succ_le_succ hle, fun hq => Nat.succ_lt_succ (hlt hq)⟩
  | @quote cs s rest h ih =>
      cases x with
      | nil => exact absurd (List.cons.inj htext).1 (by decide)
      | cons a x =>
          obtain ⟨-, htail⟩ := List.cons.inj htext
          cases x with
          | nil =>
              -- The quote is escaped by the last character before it.
              obtain rfl := (List.cons.inj htail).2
              obtain ⟨s', rfl⟩ := h.exists_cons hc
              exact ⟨[], s', rfl, Nat.zero_le _, fun _ => Nat.zero_lt_succ _⟩
          | cons b x =>
              obtain ⟨s₁, s₂, rfl, hle, -⟩ := ih hover (List.cons.inj htail).2
              refine ⟨'"' :: s₁, s₂, rfl, ?_, fun _ => ?_⟩
              · simp only [List.length_cons]
                omega
              · simp only [List.length_cons]
                omega
  | @shorter used given cs s rest hquote hhead hshorter h ih =>
      -- No quote is in what is taken here, so all of it stands before the quote.
      obtain ⟨x', rfl, htail⟩ : ∃ x', x = used ++ x' ∧ x' ++ '"' :: c :: y = cs := by
        rcases List.append_eq_append_iff.mp htext with ⟨w, rfl, hw⟩ | ⟨w, rfl, hw⟩
        · cases w with
          | nil => exact ⟨[], by simp, hw⟩
          | cons a w =>
              rw [← (List.cons.inj hw).1] at hquote
              exact absurd (List.mem_append_right x (.head w)) hquote
        · exact ⟨w, rfl, hw.symm⟩
      obtain ⟨s₁, s₂, rfl, hle, -⟩ := ih hover htail
      refine ⟨given ++ s₁, s₂, by rw [List.append_assoc], ?_, fun _ => ?_⟩
      · simp only [List.length_append]
        omega
      · simp only [List.length_append]
        omega

/-! ## Strings in an array -/

/-- A reader that runs over the closing quote of the text that it gives would give an earlier quote
back for each that it runs over, and there is no first one. -/
theorem length_lt_of_descent
    (h : ∀ x z, s ++ '"' :: c :: y = x ++ '"' :: c :: z → rest.length ≤ z.length →
      ∃ s₁ s₂, s = s₁ ++ '"' :: c :: s₂ ∧ s₁.length < x.length) :
    y.length < rest.length := by
  refine Nat.lt_of_not_le fun hover => ?_
  -- By induction on where the quote stands: the one given back for it stands in the text as well,
  -- before it, and the reader runs over that one too.
  have hnone : ∀ n x z, x.length = n → s ++ '"' :: c :: y = x ++ '"' :: c :: z →
      rest.length ≤ z.length → False := by
    intro n
    induction n using Nat.strongRecOn with
    | ind n ih =>
        rintro x z rfl htext hle
        obtain ⟨s₁, s₂, hs, hlt⟩ := h x z htext hle
        refine ih _ hlt s₁ (s₂ ++ '"' :: c :: y) rfl ?_ ?_
        · simpa using congrArg (· ++ '"' :: c :: y) hs
        · simp only [List.length_append, List.length_cons]
          omega
  exact hnone _ s y rfl rfl hover

theorem Reads.length_lt (hc : EndsItem c) (h : Reads 1 (s ++ '"' :: c :: y) s rest) :
    y.length < rest.length := by
  refine length_lt_of_descent (s := s) (c := c) fun x z htext hle => ?_
  rw [htext] at h
  obtain ⟨s₁, s₂, hs, -, hlt⟩ := h.exists_quote hc hle
  exact ⟨s₁, s₂, hs, hlt rfl⟩

theorem lineBreak?_eq_some (h : lineBreak? cs = some rest) :
    cs = '\n' :: rest ∨ cs = '\r' :: '\n' :: rest := by
  fun_cases lineBreak? cs with
  | case1 r => exact .inl (by rw [← Option.some.inj h])
  | case2 r => exact .inr (by rw [← Option.some.inj h])
  | case3 => simp [lineBreak?] at h

theorem length_afterBreak_le (cs : List Char) : (afterBreak cs).length ≤ cs.length := by
  rw [afterBreak]
  cases hbreak : lineBreak? cs with
  | none => exact Nat.le_refl _
  | some r =>
      rcases lineBreak?_eq_some hbreak with rfl | rfl
      · exact Nat.le_succ _
      · exact Nat.le_add_right _ 2

/-- A line break that is left out stands before the quote. -/
theorem afterBreak_append (x y : List Char) :
    ∃ x', afterBreak (x ++ '"' :: y) = x' ++ '"' :: y ∧ x'.length ≤ x.length := by
  rw [afterBreak]
  cases hbreak : lineBreak? (x ++ '"' :: y) with
  | none => exact ⟨x, rfl, Nat.le_refl _⟩
  | some r =>
      rcases lineBreak?_eq_some hbreak with htext | htext
      · rcases List.append_eq_cons_iff.mp htext with ⟨-, hquote⟩ | ⟨x, rfl, rfl⟩
        · simp at hquote
        · exact ⟨x, rfl, by simp⟩
      · rcases List.append_eq_cons_iff.mp htext with ⟨-, hquote⟩ | ⟨x', rfl, htail⟩
        · simp at hquote
        · rcases List.cons_eq_append_iff.mp htail with ⟨-, hquote⟩ | ⟨x, rfl, rfl⟩
          · simp at hquote
          · exact ⟨x, rfl, by simp; omega⟩

/-- The first two quotes of the three that open a string are taken for nothing. -/
theorem Reads.length_lt_lines {t : List Char} (hc : EndsItem c)
    (htext : s ++ '"' :: c :: y = '"' :: '"' :: t) (h : Reads 3 (afterBreak t) s rest) :
    y.length < rest.length := by
  have hquote : c ≠ '"' := by
    rintro rfl
    simp [EndsItem] at hc
  refine length_lt_of_descent (s := s) (c := c) fun x z hx hle => ?_
  have hx := htext.symm.trans hx
  match x with
  | [] => exact absurd (List.cons.inj (List.cons.inj hx).2).1.symm hquote
  | [a] =>
      -- Then the string begins with what follows the three quotes, and that is no quote.
      obtain rfl := (List.cons.inj (List.cons.inj hx).2).2
      have hbreak : afterBreak (c :: z) = c :: z := by
        rcases hc with rfl | rfl
        · rfl
        · rfl
      rw [hbreak] at h
      obtain ⟨s', rfl⟩ := h.exists_cons hc
      exact absurd (List.cons.inj htext).1 hquote
  | a :: b :: x =>
      obtain rfl := (List.cons.inj (List.cons.inj hx).2).2
      obtain ⟨x', hx', hshorter⟩ := afterBreak_append x (c :: z)
      rw [List.append_eq, hx'] at h
      obtain ⟨s₁, s₂, hs, hlength, -⟩ := h.exists_quote hc hle
      exact ⟨s₁, s₂, hs, by simp only [List.length_cons]; omega⟩

theorem reads_of_read? {t : List Char} (h : read? ('"' :: t) = some (s, rest)) :
    Reads 1 t s rest ∨ ∃ t', t = '"' :: '"' :: t' ∧ Reads 3 (afterBreak t') s rest := by
  by_cases hthree : ∃ t', t = '"' :: '"' :: t'
  · obtain ⟨t', rfl⟩ := hthree
    exact .inr ⟨t', rfl, reads_basicLines h⟩
  · rw [read?] at h
    · exact .inl (reads_basic h)
    · exact fun t' ht => hthree ⟨t', ht⟩

/-- Only a clean text is read as itself. -/
theorem clean_of_read? (hc : EndsItem c)
    (h : read? ('"' :: (s ++ '"' :: c :: y)) = some (s, rest)) : Clean s ∧ rest = c :: y := by
  rcases reads_of_read? h with hone | ⟨t, htext, hlines⟩
  · have hlt := hone.length_lt hc
    obtain ⟨hclean, htext⟩ := hone.clean_of_length_le (by simp; omega)
    exact ⟨hclean, by simpa using (List.append_cancel_left htext).symm⟩
  · have hlt := hlines.length_lt_lines hc htext
    have hle := hlines.length_le
    have hbreak := length_afterBreak_le t
    have hlength := congrArg List.length htext
    simp only [List.length_append, List.length_cons] at hlength
    omega

/-! ## Texts without escapes -/

/-- A text in which nothing ends a string or begins an escape. -/
def Unescaped (s : List Char) : Prop := '"' ∉ s ∧ '\\' ∉ s

instance (s : List Char) : Decidable (Unescaped s) :=
  inferInstanceAs (Decidable ('"' ∉ s ∧ '\\' ∉ s))

theorem Clean.unescaped (h : Clean s) : Unescaped s :=
  ⟨fun hmem => (h _ hmem).1 rfl, fun hmem => (h _ hmem).2.1 rfl⟩

theorem Clean.any_isControl (h : Clean s) : s.any isControl = false := by
  rw [List.any_eq_false]
  intro c hc
  rw [(h c hc).2.2]
  exact Bool.false_ne_true

theorem Unescaped.clean_or (h : Unescaped s) : Clean s ∨ s.any isControl := by
  cases hany : s.any isControl with
  | true => exact .inr rfl
  | false =>
      refine .inl fun c hc => ⟨?_, ?_, ?_⟩
      · rintro rfl
        exact h.1 hc
      · rintro rfl
        exact h.2 hc
      · simpa using List.any_eq_false.mp hany c hc

theorem Unescaped.tail (h : Unescaped (c :: s)) : Unescaped s :=
  ⟨fun hmem => h.1 (.tail c hmem), fun hmem => h.2 (.tail c hmem)⟩

theorem basic_cons (h : Unescaped (c :: s)) (cs : List Char) :
    basic (c :: cs) = if isControl c then none else (basic cs).map (before c) := by
  have hquote : c ≠ '"' := by
    rintro rfl
    exact h.1 (.head s)
  have hslash : c ≠ '\\' := by
    rintro rfl
    exact h.2 (.head s)
  rw [basic]
  · simp only [hslash, or_false]
  · exact hquote
  · exact fun _ _ _ hc _ => hslash hc
  · exact fun _ _ _ _ _ hc _ => hslash hc
  · exact fun _ _ _ _ _ _ _ _ _ hc _ => hslash hc
  · exact fun _ _ hc _ => hslash hc

theorem basic_append (h : Unescaped s) (cs : List Char) :
    basic (s ++ '"' :: cs) = if s.any isControl then none else some (s, cs) := by
  induction s with
  | nil => rfl
  | cons c s ih =>
      rw [List.cons_append, basic_cons h, ih h.tail, List.any_cons]
      cases isControl c with
      | true => rfl
      | false =>
          cases s.any isControl with
          | true => rfl
          | false => rfl

/-- An item without escapes is read as itself, or not at all. -/
theorem read?_append (h : Unescaped s) (hc : EndsItem c) (cs : List Char) :
    read? ('"' :: (s ++ '"' :: c :: cs)) =
      if s.any isControl then none else some (s, c :: cs) := by
  have hone : read? ('"' :: (s ++ '"' :: c :: cs)) = basic (s ++ '"' :: c :: cs) := by
    rw [read?]
    intro r htext
    cases s with
    | nil =>
        rw [(List.cons.inj (List.cons.inj htext).2).1] at hc
        exact absurd hc (by simp [EndsItem])
    | cons a s =>
        rw [(List.cons.inj htext).1] at h
        exact h.1 (.head s)
  rw [hone, basic_append h]

end PackageSweep.Toml.Text
