import Mathlib.Algebra.Ring.Nat
import PackageSweep.Proofs.Trimming
import PackageSweep.Text.Numeral
import PackageSweep.Version.Next

/-!
# Raising a version

A version is raised in its last component: a number, written by digits after at most one plus sign,
is replaced by the numeral of the number after it. A numeral is read as its number again, so a
raised version can be raised on, up to the largest number of 64 bits and not beyond.
-/

namespace PackageSweep

namespace Text

/-- One or more decimal digits that stand for a number. -/
structure Digits (cs : List Char) (n : Nat) : Prop where
  ne_nil : cs ≠ []
  isDigit : ∀ c ∈ cs, c.isDigit
  value : Nat.ofDigitChars 10 cs 0 = n

/-- A number written by decimal digits, after a plus sign or none. -/
inductive Writes : List Char → Nat → Prop where
  | plain {cs : List Char} {n : Nat} (h : Digits cs n) : Writes cs n
  | signed {cs : List Char} {n : Nat} (h : Digits cs n) : Writes ('+' :: cs) n

variable {c : Char} {cs : List Char} {n : Nat}

theorem isBlank_of_isDigit (h : c.isDigit) : isBlank c = false := by
  have hrange : 48 ≤ c.toNat ∧ c.toNat ≤ 57 := by
    rw [Char.isDigit, Bool.and_eq_true, decide_eq_true_eq, decide_eq_true_eq] at h
    exact ⟨UInt32.le_iff_toNat_le.mp h.1, UInt32.le_iff_toNat_le.mp h.2⟩
  simp only [isBlank, Bool.or_eq_false_iff, Bool.and_eq_false_iff, decide_eq_false_iff_not,
    beq_eq_false_iff_ne]
  omega

theorem natural?_eq_some_iff : natural? cs = some n ↔ Digits cs n := by
  constructor
  · intro h
    obtain ⟨⟨hne, hall⟩, hvalue⟩ := Option.ite_none_right_eq_some.mp h
    exact ⟨hne, List.all_eq_true.mp hall, Option.some.inj hvalue⟩
  · rintro ⟨hne, hdigits, hvalue⟩
    have hall : cs.all Char.isDigit = true := List.all_eq_true.mpr hdigits
    rw [natural?, if_pos ⟨hne, hall⟩, ← hvalue]
    rfl

theorem word?_eq_some_iff : word? cs = some n ↔ Writes cs n ∧ n ≤ maxWord := by
  unfold word?
  rw [Option.filter_eq_some_iff, natural?_eq_some_iff, decide_eq_true_eq]
  refine and_congr_left fun _ => ?_
  constructor
  · intro h
    split at h
    · exact .signed h
    · exact .plain h
  · intro h
    cases h with
    | plain h =>
        split
        · have hplus : Char.isDigit '+' = true := h.isDigit '+' List.mem_cons_self
          exact absurd hplus (by decide)
        · exact h
    | signed h => exact h

theorem digits_numeral (n : Nat) : Digits (numeral n) n where
  ne_nil := Nat.toDigits_ne_nil
  isDigit := fun _ hc => Nat.isDigit_of_mem_toDigits (by decide) (by decide) hc
  value := Nat.ofDigitChars_toDigits (by decide) (by decide)

/-- The numeral of a number other than zero does not begin with a zero. -/
theorem head?_numeral_ne_zero (hn : 0 < n) : (numeral n).head? ≠ some '0' := by
  induction n using Nat.strongRecOn with
  | ind n ih =>
      rw [numeral, Nat.toDigits_eq_if (by decide)]
      split
      · rename_i hlt
        have hten : ∀ m : Fin 10, 0 < m.val → [Nat.digitChar m.val].head? ≠ some '0' := by decide
        exact hten ⟨n, hlt⟩ hn
      · -- The last digit is put behind the others, so the first digit is that of `n / 10`.
        have hsmaller : (numeral (n / 10)).head? ≠ some '0' := ih (n / 10) (by omega) (by omega)
        obtain ⟨d, ds, hds⟩ := List.exists_cons_of_ne_nil (digits_numeral (n / 10)).ne_nil
        rw [numeral] at hsmaller hds
        rw [hds] at hsmaller ⊢
        exact hsmaller

end Text

namespace Version

open Text (numeral maxWord Writes)

/-- A version without the blanks around it falls into its components but the last, each with the
point after it, and the last component. -/
structure Parts (version front last : List Char) : Prop where
  trims : Text.Trims version (front ++ last)
  front_ends : front = [] ∨ front.getLast? = some '.'
  point_notMem : '.' ∉ last

/-- A version raised a number of times. -/
def raisedBy : Nat → String → Except Fault String
  | 0, version => .ok version
  | k + 1, version => next version >>= raisedBy k

variable {version front last : List Char} {v : String} {k n : Nat}

/-! ## Components -/

theorem splitLast_of_point_notMem (h : '.' ∉ last) : splitLast last = ([], last) := by
  induction last with
  | nil => rfl
  | cons c cs ih =>
      have hc : '.' ≠ c := List.ne_of_not_mem_cons h
      rw [splitLast, ih (List.not_mem_of_not_mem_cons h)]
      exact if_pos ⟨rfl, hc.symm⟩

theorem splitLast_append_point (front : List Char) (h : '.' ∉ last) :
    splitLast (front ++ '.' :: last) = (front ++ ['.'], last) := by
  induction front with
  | nil =>
      rw [List.nil_append, splitLast, splitLast_of_point_notMem h]
      exact if_neg (by simp)
  | cons c cs ih =>
      rw [List.cons_append, splitLast, ih]
      exact if_neg (by simp)

theorem splitLast_append (hfront : front = [] ∨ front.getLast? = some '.') (h : '.' ∉ last) :
    splitLast (front ++ last) = (front, last) := by
  rcases hfront with rfl | hpoint
  · exact splitLast_of_point_notMem h
  · obtain ⟨components, rfl⟩ := List.getLast?_eq_some_iff.mp hpoint
    rw [List.append_assoc]
    exact splitLast_append_point components h

theorem exists_splitLast (cs : List Char) :
    ∃ front last, cs = front ++ last ∧ (front = [] ∨ front.getLast? = some '.') ∧
      '.' ∉ last := by
  induction cs with
  | nil => exact ⟨[], [], rfl, .inl rfl, List.not_mem_nil⟩
  | cons c cs ih =>
      obtain ⟨front, last, rfl, hfront, hlast⟩ := ih
      rcases hfront with rfl | hpoint
      · by_cases hc : c = '.'
        · exact ⟨['.'], last, by rw [hc]; rfl, .inr rfl, hlast⟩
        · have hpoint : '.' ∉ c :: last := List.not_mem_cons_of_ne_of_not_mem (Ne.symm hc) hlast
          exact ⟨[], c :: last, rfl, .inl rfl, hpoint⟩
      · obtain ⟨components, rfl⟩ := List.getLast?_eq_some_iff.mp hpoint
        have hends : (c :: components ++ ['.']).getLast? = some '.' := List.getLast?_concat
        exact ⟨c :: (components ++ ['.']), last, rfl, .inr hends, hlast⟩

theorem exists_parts (version : List Char) : ∃ front last, Parts version front last := by
  obtain ⟨front, last, htext, hfront, hlast⟩ := exists_splitLast (Text.trim version)
  exact ⟨front, last, htext ▸ Text.trims_trim version, hfront, hlast⟩

theorem Parts.splitLast_eq (h : Parts version front last) :
    splitLast (Text.trim version) = (front, last) := by
  rw [h.trims.trim_eq]
  exact splitLast_append h.front_ends h.point_notMem

theorem Parts.unique {front' last' : List Char} (h : Parts version front last)
    (h' : Parts version front' last') : front' = front ∧ last' = last :=
  Prod.mk.inj (h'.splitLast_eq.symm.trans h.splitLast_eq)

/-- A numeral in the place of the last component is the last component. -/
theorem Parts.numeral (h : Parts version front last) (n : Nat) :
    Parts (front ++ numeral n) front (numeral n) := by
  have hdigits := Text.digits_numeral n
  refine ⟨⟨⟨[], [], by simp, by simp, by simp⟩, ?_, ?_⟩, h.front_ends, ?_⟩
  · intro c hc
    cases front with
    | nil => exact Text.isBlank_of_isDigit (hdigits.isDigit c (List.mem_of_head? hc))
    | cons d ds => exact h.trims.head_not_blank c hc
  · intro c hc
    rw [List.getLast?_append, List.getLast?_eq_some_getLast hdigits.ne_nil] at hc
    obtain rfl := Option.some.inj hc
    exact Text.isBlank_of_isDigit (hdigits.isDigit _ (List.getLast_mem hdigits.ne_nil))
  · intro hpoint
    exact absurd (hdigits.isDigit '.' hpoint) (by decide)

/-! ## Raising -/

theorem next_of_some {raised : List Char} (h : next? v.toList = some raised) :
    next v = .ok (String.ofList raised) := by
  delta next
  rw [h]

theorem next_of_none (h : next? v.toList = none) : next v = .error (.invalidVersion v) := by
  delta next
  rw [h]

theorem next_of_writes (h : Parts v.toList front last) (hn : Writes last n) (hlt : n < maxWord) :
    next v = .ok (String.ofList (front ++ numeral (n + 1))) := by
  have hword : Text.word? last = some n := Text.word?_eq_some_iff.mpr ⟨hn, Nat.le_of_lt hlt⟩
  apply next_of_some
  simp [next?, h.splitLast_eq, hword, hlt]

theorem next_of_not_writes (h : Parts v.toList front last)
    (hnot : ¬ ∃ n, Writes last n ∧ n < maxWord) : next v = .error (.invalidVersion v) := by
  apply next_of_none
  cases hword : Text.word? last with
  | none => simp [next?, h.splitLast_eq, hword]
  | some n =>
      have hlt : ¬ n < maxWord := fun hlt => hnot ⟨n, (Text.word?_eq_some_iff.mp hword).1, hlt⟩
      simp [next?, h.splitLast_eq, hword, hlt]

theorem exists_next_iff (h : Parts v.toList front last) :
    (∃ raised, next v = .ok raised) ↔ ∃ n, Writes last n ∧ n < maxWord := by
  constructor
  · rintro ⟨raised, hraised⟩
    by_contra hnot
    rw [next_of_not_writes h hnot] at hraised
    simp at hraised
  · rintro ⟨n, hn, hlt⟩
    exact ⟨_, next_of_writes h hn hlt⟩

theorem not_writes_numeral_maxWord : ¬ ∃ n, Writes (numeral maxWord) n ∧ n < maxWord := by
  rintro ⟨n, hn, hlt⟩
  have hread : Text.word? (numeral maxWord) = some maxWord :=
    Text.word?_eq_some_iff.mpr ⟨.plain (Text.digits_numeral maxWord), Nat.le_refl maxWord⟩
  have hsame : Text.word? (numeral maxWord) = some n :=
    Text.word?_eq_some_iff.mpr ⟨hn, Nat.le_of_lt hlt⟩
  rw [hread] at hsame
  have : maxWord = n := Option.some.inj hsame
  omega

theorem raisedBy_succ_of_ok {raised : String} (h : next v = .ok raised) (k : Nat) :
    raisedBy (k + 1) v = raisedBy k raised := by
  change (next v >>= raisedBy k) = _
  rw [h]
  rfl

theorem raisedBy_succ_of_error {fault : Fault} (h : next v = .error fault) (k : Nat) :
    raisedBy (k + 1) v = .error fault := by
  change (next v >>= raisedBy k) = _
  rw [h]
  rfl

/-- Raising on a version that ends in a numeral counts up to the largest number and fails there. -/
theorem raisedBy_numeral (h : Parts version front last) (k : Nat) (hn : n ≤ maxWord) :
    raisedBy k (String.ofList (front ++ numeral n)) =
      if n + k ≤ maxWord then .ok (String.ofList (front ++ numeral (n + k)))
      else .error (.invalidVersion (String.ofList (front ++ numeral maxWord))) := by
  induction k generalizing n with
  | zero => exact (if_pos hn).symm
  | succ k ih =>
      have hparts : Parts (String.ofList (front ++ numeral n)).toList front (numeral n) := by
        rw [String.toList_ofList]
        exact h.numeral n
      rcases Nat.lt_or_eq_of_le hn with hlt | rfl
      · have hnext := next_of_writes hparts (.plain (Text.digits_numeral n)) hlt
        rw [raisedBy_succ_of_ok hnext, ih hlt, Nat.succ_add_eq_add_succ]
      · -- Only a version at the limit is refused on the way, so the fault names it and no other.
        have hnext := next_of_not_writes hparts not_writes_numeral_maxWord
        have hbeyond : ¬ maxWord + (k + 1) ≤ maxWord := by omega
        rw [raisedBy_succ_of_error hnext, if_neg hbeyond]

/-- A version can be raised exactly when its last component writes a number below the largest of 64
bits, and this number alone is raised; otherwise the fault carries the version as it was given.
Raised more than once it counts on, and fails instead of going beyond the largest number. -/
theorem next_exact (v : String) :
    ∃ front last, Parts v.toList front last ∧
      (∀ front' last', Parts v.toList front' last' → front' = front ∧ last' = last) ∧
      ((∃ raised, next v = .ok raised) ↔ ∃ n, Writes last n ∧ n < 2 ^ 64 - 1) ∧
      ((¬ ∃ n, Writes last n ∧ n < 2 ^ 64 - 1) → next v = .error (.invalidVersion v)) ∧
      ∀ n, Writes last n → n < 2 ^ 64 - 1 →
        (numeral (n + 1)).head? ≠ some '0' ∧
          next v = .ok (String.ofList (front ++ numeral (n + 1))) ∧
          ∀ k, raisedBy (k + 1) v =
            if n + (k + 1) ≤ 2 ^ 64 - 1 then .ok (String.ofList (front ++ numeral (n + (k + 1))))
            else .error (.invalidVersion (String.ofList (front ++ numeral (2 ^ 64 - 1)))) := by
  have hlimit : 2 ^ 64 - 1 = maxWord := rfl
  obtain ⟨front, last, hparts⟩ := exists_parts v.toList
  rw [hlimit]
  refine ⟨front, last, hparts, fun _ _ h => hparts.unique h, exists_next_iff hparts,
    next_of_not_writes hparts, ?_⟩
  intro n hn hlt
  have hnext := next_of_writes hparts hn hlt
  -- The first raise takes the sign and the zeros away; from then on the version ends in a numeral.
  refine ⟨Text.head?_numeral_ne_zero (Nat.succ_pos n), hnext, fun k => ?_⟩
  rw [raisedBy_succ_of_ok hnext, raisedBy_numeral hparts k hlt, Nat.succ_add_eq_add_succ]

/-- A version with blanks around it and a sign and a zero before its last number, which can be
raised once. -/
theorem signed_raised :
    Parts "\t1.+018446744073709551614 ".toList "1.".toList "+018446744073709551614".toList ∧
      next "\t1.+018446744073709551614 " = .ok "1.18446744073709551615" ∧
      raisedBy 2 "\t1.+018446744073709551614 " =
        .error (.invalidVersion "1.18446744073709551615") := by
  have hparts : Parts "\t1.+018446744073709551614 ".toList "1.".toList
      "+018446744073709551614".toList := by
    have htab : ∀ c ∈ ['\t'], Text.isBlank c := List.forall_mem_singleton.mpr rfl
    have hspace : ∀ c ∈ [' '], Text.isBlank c := List.forall_mem_singleton.mpr rfl
    refine ⟨⟨⟨['\t'], [' '], rfl, htab, hspace⟩, ?_, ?_⟩, .inr rfl, by decide +kernel⟩
    · rintro c hc
      obtain rfl := Option.some.inj hc
      decide
    · rintro c hc
      obtain rfl := Option.some.inj hc
      decide
  have hdigits : "018446744073709551614".toList.all Char.isDigit = true := by decide +kernel
  have hwrites : Writes "+018446744073709551614".toList (2 ^ 64 - 2) :=
    .signed ⟨by simp, List.all_eq_true.mp hdigits, by decide +kernel⟩
  obtain ⟨front, last, -, hunique, -, -, hraise⟩ := next_exact "\t1.+018446744073709551614 "
  obtain ⟨rfl, rfl⟩ := hunique _ _ hparts
  obtain ⟨-, hnext, htimes⟩ := hraise (2 ^ 64 - 2) hwrites (by decide)
  exact ⟨hparts, hnext.trans (by decide +kernel), (htimes 1).trans (by decide +kernel)⟩

end Version

end PackageSweep
