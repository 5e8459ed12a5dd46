import PackageSweep.Proofs.Toml.BasicString
import PackageSweep.Toml.Reader

/-!
# Arrays of strings on one line

The texts of an array stand between double quotes, one after the other. The array is read back as
these texts only if each of them is clean.
-/

namespace PackageSweep.Toml

open PackageSweep.Toml.Text (Clean EndsItem Unescaped isControl)

variable {fuel depth : Nat} {c : Char} {s cs rest : List Char} {ss : List (List Char)}
  {vs : List Value}

def quoted (s : List Char) : List Char := '"' :: (s ++ ['"'])

/-- The texts as they stand between the brackets of an array. -/
def listing (ss : List (List Char)) : List Char := List.intercalate [',', ' '] (ss.map quoted)

def textValue (s : List Char) : Value := .text (String.ofList s)

theorem listing_singleton_append (s cs : List Char) :
    listing [s] ++ cs = '"' :: (s ++ '"' :: cs) := by
  simp [listing, quoted, List.intercalate]

theorem listing_cons_cons_append (s s' : List Char) (ss : List (List Char)) (cs : List Char) :
    listing (s :: s' :: ss) ++ cs =
      '"' :: (s ++ '"' :: ',' :: ' ' :: (listing (s' :: ss) ++ cs)) := by
  simp [listing, quoted, List.intercalate]

theorem length_le_length_listing (ss : List (List Char)) : ss.length ≤ (listing ss).length := by
  induction ss with
  | nil => simp
  | cons s ss ih =>
      cases ss with
      | nil => simp [listing, quoted, List.intercalate]
      | cons s' ss =>
          have hlength := congrArg List.length (listing_cons_cons_append s s' ss [])
          simp only [List.append_nil, List.length_cons, List.length_append] at hlength ih ⊢
          omega

/-! ## One item -/

theorem textValue_inj {s' : List Char} (h : textValue s = textValue s') : s = s' :=
  String.ofList_injective (Value.text.inj h)

theorem items_space (fuel depth : Nat) (cs : List Char) :
    items fuel depth (' ' :: cs) = items fuel depth cs := by
  cases fuel with
  | zero => rfl
  | succ fuel => rfl

/-- The items that follow a first one, which stands in front of them. -/
def itemsAfter (fuel depth : Nat) (v : Value) (cs : List Char) : Option (List Value × List Char) :=
  match skipLines? false cs with
  | some (']' :: rest) => some ([v], rest)
  | some (',' :: r) => (items fuel depth r).map fun p => (v :: p.1, p.2)
  | _ => none

/-- An item between quotes is read first of the items that begin with it. -/
theorem items_quote (fuel depth : Nat) (cs : List Char) :
    items (fuel + 2) depth ('"' :: cs) =
      (Text.read? ('"' :: cs)).bind fun p => itemsAfter (fuel + 1) depth (textValue p.1) p.2 := by
  have hvalue : value (fuel + 1) depth ('"' :: cs) =
      (Text.read? ('"' :: cs)).map fun p => (textValue p.1, p.2) := by
    rw [value]
    rfl
  have hskip : skipLines? false ('"' :: cs) = some ('"' :: cs) := rfl
  rw [items, hskip]
  split
  · contradiction
  · rename_i rest hbracket
    simp at hbracket
  · rename_i r _ hr
    rw [← Option.some.inj hr, hvalue]
    cases Text.read? ('"' :: cs) with
    | none => rfl
    | some p => rfl

theorem itemsAfter_bracket (fuel depth : Nat) (v : Value) (cs : List Char) :
    itemsAfter fuel depth v (']' :: cs) = some ([v], cs) := rfl

theorem itemsAfter_comma (fuel depth : Nat) (v : Value) (cs : List Char) :
    itemsAfter fuel depth v (',' :: cs) = (items fuel depth cs).map fun p => (v :: p.1, p.2) := rfl

/-- Whatever follows an item, the item is the first of what is read. -/
theorem head_of_itemsAfter {v w : Value} {ws : List Value}
    (h : itemsAfter fuel depth v cs = some (w :: ws, rest)) : v = w := by
  rw [itemsAfter] at h
  split at h
  · obtain ⟨heq, -⟩ := Prod.mk.inj (Option.some.inj h)
    exact (List.cons.inj heq).1
  · obtain ⟨p, -, heq⟩ := Option.map_eq_some_iff.mp h
    exact (List.cons.inj (Prod.mk.inj heq).1).1
  · simp at h

theorem items_of_clean (hs : Clean s) (hc : EndsItem c) (fuel depth : Nat) (cs : List Char) :
    items (fuel + 2) depth ('"' :: (s ++ '"' :: c :: cs)) =
      itemsAfter (fuel + 1) depth (textValue s) (c :: cs) := by
  rw [items_quote, Text.read?_append hs.unescaped hc, hs.any_isControl]
  rfl

theorem items_of_isControl (hs : Unescaped s) (hcontrol : s.any isControl) (hc : EndsItem c)
    (fuel depth : Nat) (cs : List Char) :
    items (fuel + 2) depth ('"' :: (s ++ '"' :: c :: cs)) = none := by
  rw [items_quote, Text.read?_append hs hc, hcontrol]
  rfl

theorem clean_of_items (hc : EndsItem c)
    (h : items (fuel + 2) depth ('"' :: (s ++ '"' :: c :: cs)) = some (textValue s :: vs, rest)) :
    Clean s := by
  rw [items_quote] at h
  obtain ⟨⟨s', r⟩, hread, hafter⟩ := Option.bind_eq_some_iff.mp h
  obtain rfl := textValue_inj (head_of_itemsAfter hafter)
  exact (Text.clean_of_read? hc hread).1

/-! ## All items -/

/-- The first text of an array stands between quotes, and the items after it are the other texts. -/
theorem exists_listing_cons (s : List Char) (ss : List (List Char)) (cs : List Char) :
    ∃ c r, EndsItem c ∧ listing (s :: ss) ++ ']' :: cs = '"' :: (s ++ '"' :: c :: r) ∧
      ∀ fuel depth v, itemsAfter (fuel + 1) depth v (c :: r) =
        (items (fuel + 1) depth (listing ss ++ ']' :: cs)).map fun p => (v :: p.1, p.2) := by
  cases ss with
  | nil =>
      refine ⟨']', cs, .inr rfl, listing_singleton_append s _, fun fuel depth v => ?_⟩
      rw [itemsAfter_bracket]
      rfl
  | cons s' ss =>
      refine ⟨',', _, .inl rfl, listing_cons_cons_append s s' ss _, fun fuel depth v => ?_⟩
      rw [itemsAfter_comma, items_space]

theorem exists_add_two (hfuel : (s :: ss).length < fuel) : ∃ n, fuel = n + 2 :=
  Nat.exists_eq_add_of_le' (Nat.le_trans (Nat.le_add_left 2 ss.length) hfuel)

theorem items_listing_of_clean (hss : ∀ s ∈ ss, Clean s) (hfuel : ss.length < fuel)
    (depth : Nat) (cs : List Char) :
    items fuel depth (listing ss ++ ']' :: cs) = some (ss.map textValue, cs) := by
  induction ss generalizing fuel with
  | nil =>
      obtain ⟨fuel, rfl⟩ : ∃ n, fuel = n + 1 := Nat.exists_eq_add_of_le' hfuel
      rfl
  | cons s ss ih =>
      obtain ⟨fuel, rfl⟩ := exists_add_two hfuel
      obtain ⟨c, r, hc, htext, hafter⟩ := exists_listing_cons s ss cs
      rw [htext, items_of_clean (hss s (.head ss)) hc, hafter,
        ih (fun t ht => hss t (.tail s ht)) (Nat.lt_of_succ_lt_succ hfuel)]
      rfl

theorem items_listing_eq_none (hss : ∀ s ∈ ss, Unescaped s) (hnot : ¬ ∀ s ∈ ss, Clean s)
    (hfuel : ss.length < fuel) (depth : Nat) (cs : List Char) :
    items fuel depth (listing ss ++ ']' :: cs) = none := by
  induction ss generalizing fuel with
  | nil => simp at hnot
  | cons s ss ih =>
      obtain ⟨fuel, rfl⟩ := exists_add_two hfuel
      obtain ⟨c, r, hc, htext, hafter⟩ := exists_listing_cons s ss cs
      rw [htext]
      rcases (hss s (.head ss)).clean_or with hs | hcontrol
      · have hrest : ¬ ∀ s ∈ ss, Clean s := by
          intro hall
          exact hnot (List.forall_mem_cons.mpr ⟨hs, hall⟩)
        rw [items_of_clean hs hc, hafter,
          ih (fun t ht => hss t (.tail s ht)) hrest (Nat.lt_of_succ_lt_succ hfuel)]
        rfl
      · exact items_of_isControl (hss s (.head ss)) hcontrol hc fuel depth r

/-- Texts that are read back are clean. -/
theorem clean_of_items_listing (hfuel : ss.length < fuel)
    (h : items fuel depth (listing ss ++ ']' :: cs) = some (ss.map textValue, rest)) :
    ∀ s ∈ ss, Clean s := by
  induction ss generalizing fuel with
  | nil => simp
  | cons s ss ih =>
      obtain ⟨fuel, rfl⟩ := exists_add_two hfuel
      obtain ⟨c, r, hc, htext, hafter⟩ := exists_listing_cons s ss cs
      rw [htext] at h
      -- Only a clean text leaves the items after it where they are written.
      have hs := clean_of_items hc h
      rw [items_of_clean hs hc, hafter] at h
      obtain ⟨⟨vs, rest'⟩, hitems, heq⟩ := Option.map_eq_some_iff.mp h
      obtain ⟨htail, rfl⟩ := Prod.mk.inj heq
      obtain rfl := (List.cons.inj htail).2
      exact List.forall_mem_cons.mpr ⟨hs, ih (Nat.lt_of_succ_lt_succ hfuel) hitems⟩

end PackageSweep.Toml
