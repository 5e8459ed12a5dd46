import PackageSweep.Text.Pieces

/-!
# Cutting and joining

Cutting a text is `List.splitOnP`, whose laws are stated here for pieces. Joining undoes cutting,
and cutting again at more separators is the same as cutting once at all of them.
-/

namespace PackageSweep.Text

variable {f g : Char → Bool} {c : Char} {cs p : List Char}

theorem pieces_eq_splitOnP (f : Char → Bool) (cs : List Char) : pieces f cs = cs.splitOnP f := by
  induction cs with
  | nil => rfl
  | cons c cs ih =>
      rw [pieces, List.splitOnP_cons_eq_if_modifyHead, ih]
      obtain ⟨p, ps, hp⟩ := List.exists_cons_of_ne_nil (List.splitOnP_ne_nil f cs)
      simp [hp]

theorem pieces_eq_splitOn (c : Char) (cs : List Char) : pieces (· == c) cs = cs.splitOn c := by
  rw [pieces_eq_splitOnP, List.splitOn_eq_splitOnP]

theorem pieces_cons_of_separates (h : f c) : pieces f (c :: cs) = [] :: pieces f cs := by
  simp [pieces, h]

/-- A character that does not separate goes to the front of the first piece. -/
theorem exists_pieces_cons (h : f c = false) (cs : List Char) :
    ∃ p ps, pieces f cs = p :: ps ∧ pieces f (c :: cs) = (c :: p) :: ps := by
  obtain ⟨p, ps, hp⟩ := List.exists_cons_of_ne_nil (pieces_ne_nil f cs)
  exact ⟨p, ps, hp, by simp [pieces, h, hp]⟩

theorem pieces_append_cons (cs ds : List Char) (h : f c) :
    pieces f (cs ++ c :: ds) = pieces f cs ++ pieces f ds := by
  simp only [pieces_eq_splitOnP]
  exact List.splitOnP_append_cons cs ds h

theorem pieces_joined {ps : List (List Char)} (hne : ps ≠ []) (hps : ∀ p ∈ ps, c ∉ p) :
    pieces (· == c) (joined c ps) = ps := by
  rw [pieces_eq_splitOn]
  exact List.splitOn_intercalate c hps hne

theorem joined_pieces (c : Char) (cs : List Char) : joined c (pieces (· == c) cs) = cs := by
  rw [pieces_eq_splitOn]
  exact List.intercalate_splitOn c

theorem joined_append {ps qs : List (List Char)} (c : Char) (hps : ps ≠ []) (hqs : qs ≠ []) :
    joined c (ps ++ qs) = joined c ps ++ c :: joined c qs := by
  induction ps with
  | nil => exact absurd rfl hps
  | cons p ps ih =>
      cases ps with
      | nil =>
          obtain ⟨q, qs, rfl⟩ := List.exists_cons_of_ne_nil hqs
          rw [joined_singleton, List.singleton_append, joined_cons_cons]
      | cons r ps =>
          have hrest := ih (List.cons_ne_nil r ps)
          rw [List.cons_append] at hrest
          rw [List.cons_append, List.cons_append, joined_cons_cons, joined_cons_cons, hrest,
            List.append_assoc, List.cons_append]

theorem mem_joined {x : Char} {ps : List (List Char)} (h : x ∈ joined c ps) :
    x = c ∨ ∃ p ∈ ps, x ∈ p := by
  induction ps with
  | nil => simp at h
  | cons p ps ih =>
      cases ps with
      | nil =>
          rw [joined_singleton] at h
          exact .inr ⟨p, List.mem_singleton_self p, h⟩
      | cons q qs =>
          rw [joined_cons_cons] at h
          rcases List.mem_append.mp h with hp | hrest
          · exact .inr ⟨p, List.mem_cons_self, hp⟩
          · rcases List.mem_cons.mp hrest with rfl | hrest
            · exact .inl rfl
            · rcases ih hrest with hx | ⟨r, hr, hx⟩
              · exact .inl hx
              · exact .inr ⟨r, List.mem_cons_of_mem p hr, hx⟩

theorem joined_eq_nil_iff {ps : List (List Char)} (h : ∀ p ∈ ps, p ≠ []) :
    joined c ps = [] ↔ ps = [] := by
  constructor
  · intro hnil
    cases ps with
    | nil => rfl
    | cons p ps =>
        have hp : p ≠ [] := h p List.mem_cons_self
        cases ps with
        | nil => exact absurd ((joined_singleton c p).symm.trans hnil) hp
        | cons q qs => simp at hnil
  · rintro rfl
    rfl

/-- A separator at an end of the text leaves an empty piece there. -/
theorem nil_mem_pieces (h : cs.head? = some c ∨ cs.getLast? = some c) :
    [] ∈ pieces (· == c) cs := by
  rcases h with h | h
  · obtain ⟨ds, rfl⟩ := List.head?_eq_some_iff.mp h
    have hcut : pieces (· == c) (c :: ds) = [] :: pieces (· == c) ds :=
      pieces_cons_of_separates (beq_self_eq_true c)
    rw [hcut]
    exact List.mem_cons_self
  · obtain ⟨ds, rfl⟩ := List.getLast?_eq_some_iff.mp h
    have hcut : pieces (· == c) (ds ++ [c]) = pieces (· == c) ds ++ [[]] :=
      pieces_append_cons ds [] (beq_self_eq_true c)
    rw [hcut]
    exact List.mem_append_right _ (List.mem_singleton_self [])

/-- Pieces that each have the separator after them come back, with nothing after the last. -/
theorem pieces_flatMap_append_singleton {ps : List (List Char)} (hps : ∀ p ∈ ps, c ∉ p) :
    pieces (· == c) (ps.flatMap (· ++ [c])) = ps ++ [[]] := by
  induction ps with
  | nil => rfl
  | cons p ps ih =>
      obtain ⟨hp, hps⟩ := List.forall_mem_cons.mp hps
      have hone : pieces (· == c) (joined c [p]) = [p] :=
        pieces_joined (List.cons_ne_nil p []) (by simpa using hp)
      have hcut : pieces (· == c) (p ++ c :: ps.flatMap (· ++ [c])) =
          pieces (· == c) p ++ pieces (· == c) (ps.flatMap (· ++ [c])) :=
        pieces_append_cons p _ (beq_self_eq_true c)
      rw [joined_singleton] at hone
      rw [List.flatMap_cons, List.append_assoc, List.singleton_append, hcut, hone, ih hps,
        List.singleton_append, List.cons_append]

/-- Cutting looks at the characters of the text only. -/
theorem pieces_congr (h : ∀ c ∈ cs, f c = g c) : pieces f cs = pieces g cs := by
  induction cs with
  | nil => rfl
  | cons c cs ih =>
      obtain ⟨hc, hcs⟩ := List.forall_mem_cons.mp h
      rw [pieces, pieces, hc, ih hcs]

theorem mem_of_mem_pieces (hp : p ∈ pieces f cs) (hc : c ∈ p) : c ∈ cs := by
  induction cs generalizing p with
  | nil => simp_all
  | cons d cs ih =>
      cases hd : f d with
      | true =>
          rw [pieces_cons_of_separates hd] at hp
          rcases List.mem_cons.mp hp with rfl | hp
          · simp at hc
          · exact List.mem_cons_of_mem d (ih hp hc)
      | false =>
          obtain ⟨q, qs, hq, hcons⟩ := exists_pieces_cons hd cs
          rw [hcons] at hp
          rcases List.mem_cons.mp hp with rfl | hp
          · rcases List.mem_cons.mp hc with rfl | hc
            · exact List.mem_cons_self
            · exact List.mem_cons_of_mem d (ih (hq ▸ List.mem_cons_self) hc)
          · exact List.mem_cons_of_mem d (ih (hq ▸ List.mem_cons_of_mem q hp) hc)

/-- Cutting at the separators of `f` and then each piece at those of `g`, which has them all, is
cutting at those of `g`. -/
theorem flatMap_pieces_pieces (h : ∀ c, f c → g c) (cs : List Char) :
    (pieces f cs).flatMap (pieces g) = pieces g cs := by
  induction cs with
  | nil => rfl
  | cons c cs ih =>
      cases hf : f c with
      | true => simp [pieces_cons_of_separates hf, pieces_cons_of_separates (h c hf), ih]
      | false =>
          obtain ⟨p, ps, hp, hcons⟩ := exists_pieces_cons hf cs
          rw [hp, List.flatMap_cons] at ih
          rw [hcons, List.flatMap_cons]
          cases hg : g c with
          | true => simp [pieces_cons_of_separates hg, ← ih]
          | false =>
              obtain ⟨q, qs, hq, hqcons⟩ := exists_pieces_cons hg p
              obtain ⟨r, rs, hr, hrcons⟩ := exists_pieces_cons hg cs
              rw [hqcons, hrcons]
              rw [hq, hr, List.cons_append, List.cons.injEq] at ih
              simp [ih.1, ih.2]

end PackageSweep.Text
