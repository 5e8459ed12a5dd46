/-!
# Texts in pieces

A text is cut at its separators into pieces, and pieces are put together again with a separator
between them. Cutting keeps every character that does not separate, in order.
-/

namespace PackageSweep.Text

/-- The pieces between the separating characters. A text without a separator is one piece. -/
def pieces (separates : Char → Bool) : List Char → List (List Char)
  | [] => [[]]
  | c :: cs =>
    if separates c then [] :: pieces separates cs
    else
      match pieces separates cs with
      | [] => [[c]]
      | p :: ps => (c :: p) :: ps

def joined (separator : Char) (ps : List (List Char)) : List Char :=
  List.intercalate [separator] ps

@[simp] theorem pieces_nil (f : Char → Bool) : pieces f [] = [[]] := rfl

theorem pieces_ne_nil (f : Char → Bool) (cs : List Char) : pieces f cs ≠ [] := by
  cases cs with
  | nil => simp
  | cons c cs =>
      rw [pieces]
      split
      · simp
      · split <;> simp

@[simp] theorem joined_nil (c : Char) : joined c [] = [] := rfl

@[simp] theorem joined_singleton (c : Char) (p : List Char) : joined c [p] = p := by
  simp [joined, List.intercalate]

@[simp] theorem joined_cons_cons (c : Char) (p q : List Char) (ps : List (List Char)) :
    joined c (p :: q :: ps) = p ++ c :: joined c (q :: ps) := by
  simp [joined, List.intercalate]

/-- No piece holds a separator. -/
theorem not_separates_of_mem_pieces {f : Char → Bool} {cs p : List Char} {c : Char}
    (hp : p ∈ pieces f cs) (hc : c ∈ p) : f c = false := by
  induction cs generalizing p with
  | nil => simp_all
  | cons d cs ih =>
      rw [pieces] at hp
      split at hp
      · rcases List.mem_cons.mp hp with rfl | hp
        · simp at hc
        · exact ih hp hc
      · rename_i hd
        split at hp
        · rename_i h
          exact absurd h (pieces_ne_nil f cs)
        · rename_i q qs h
          rcases List.mem_cons.mp hp with rfl | hp
          · rcases List.mem_cons.mp hc with rfl | hc
            · simpa using hd
            · exact ih (h ▸ List.mem_cons_self) hc
          · exact ih (h ▸ List.mem_cons_of_mem q hp) hc

end PackageSweep.Text
