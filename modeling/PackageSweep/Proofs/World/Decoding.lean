import PackageSweep.Proofs.World.Environment

/-!
# Bytes that are a text

Decoding undoes encoding, and it accepts no other bytes. So bytes are a text in one way at most, and
what is not decoded is the bytes of no text.
-/

namespace PackageSweep.Utf8

/-- Well-formed bytes of one character, with the number of that character. -/
inductive Sequence : Nat → Bytes → Prop
  | one {a : UInt8} (h : a.toNat ≤ 127) : Sequence a.toNat [a]
  | two {a b : UInt8} (h : 194 ≤ a.toNat ∧ a.toNat ≤ 223) (hb : isTail b) :
      Sequence (a.toNat % 32 * 64 + low b) [a, b]
  | three {a b c : UInt8} (h : beginsThree a b) (hc : isTail c) :
      Sequence ((a.toNat % 16 * 64 + low b) * 64 + low c) [a, b, c]
  | four {a b c d : UInt8} (h : beginsFour a b) (hc : isTail c) (hd : isTail d) :
      Sequence (((a.toNat % 8 * 64 + low b) * 64 + low c) * 64 + low d) [a, b, c, d]

variable {a b : UInt8} {c : Char} {cs : List Char} {bs rest : Bytes} {k n : Nat}

theorem isTail_iff : isTail a ↔ 128 ≤ a.toNat ∧ a.toNat ≤ 191 := by
  simp [isTail, UInt8.le_iff_toNat_le]

theorem beginsThree_iff : beginsThree a b ↔ 224 ≤ a.toNat ∧ a.toNat ≤ 239 ∧ isTail b ∧
    (a.toNat = 224 → 160 ≤ b.toNat) ∧ (a.toNat = 237 → b.toNat ≤ 159) := by
  simp only [beginsThree, Bool.or_eq_true, Bool.and_eq_true, isTail_iff, decide_eq_true_eq,
    beq_iff_eq, UInt8.le_iff_toNat_le, ← UInt8.toNat_inj, UInt8.reduceToNat]
  omega

theorem beginsFour_iff : beginsFour a b ↔ 240 ≤ a.toNat ∧ a.toNat ≤ 244 ∧ isTail b ∧
    (a.toNat = 240 → 144 ≤ b.toNat) ∧ (a.toNat = 244 → b.toNat ≤ 143) := by
  simp only [beginsFour, Bool.or_eq_true, Bool.and_eq_true, isTail_iff, decide_eq_true_eq,
    beq_iff_eq, UInt8.le_iff_toNat_le, ← UInt8.toNat_inj, UInt8.reduceToNat]
  omega

/-! ## One character -/

theorem val_toNat_ofNat (h : n.isValidChar) : (Char.ofNat n).val.toNat = n := by
  rw [Char.ofNat, dif_pos h]
  rfl

theorem ofNat_eq_iff : UInt8.ofNat n = a ↔ n % 256 = a.toNat := by
  rw [← UInt8.toNat_inj, UInt8.toNat_ofNat']

/-- The bytes of a sequence are those of its character: in each length the number lies in the range
that is written with so many bytes, and its digits are the low bits of the bytes. -/
theorem Sequence.utf8EncodeChar_ofNat (h : Sequence n bs) :
    String.utf8EncodeChar (Char.ofNat n) = bs := by
  cases h with
  | @one a h =>
      have hvalid : a.toNat.isValidChar := .inl (by omega)
      rw [String.utf8EncodeChar, val_toNat_ofNat hvalid, if_pos h, UInt8.ofNat_toNat]
  | @two a b h hb =>
      rw [isTail_iff] at hb
      generalize hn : a.toNat % 32 * 64 + low b = n
      rw [low] at hn
      have hrange : 127 < n ∧ n ≤ 2047 := by omega
      rw [String.utf8EncodeChar, val_toNat_ofNat (.inl (by omega)), if_neg (by omega),
        if_pos hrange.2]
      simp only [List.cons.injEq, ofNat_eq_iff, and_true]
      omega
  | @three a b c h hc =>
      rw [beginsThree_iff, isTail_iff] at h
      rw [isTail_iff] at hc
      generalize hn : (a.toNat % 16 * 64 + low b) * 64 + low c = n
      rw [low, low] at hn
      have hrange : 2047 < n ∧ n ≤ 65535 := by omega
      have hvalid : n.isValidChar := by
        unfold Nat.isValidChar
        omega
      rw [String.utf8EncodeChar, val_toNat_ofNat hvalid, if_neg (by omega), if_neg (by omega),
        if_pos hrange.2]
      simp only [List.cons.injEq, ofNat_eq_iff, and_true]
      omega
  | @four a b c d h hc hd =>
      rw [beginsFour_iff, isTail_iff] at h
      rw [isTail_iff] at hc hd
      generalize hn : ((a.toNat % 8 * 64 + low b) * 64 + low c) * 64 + low d = n
      rw [low, low, low] at hn
      have hrange : 65535 < n ∧ n ≤ 1114111 := by omega
      rw [String.utf8EncodeChar, val_toNat_ofNat (.inr (by omega)), if_neg (by omega),
        if_neg (by omega), if_neg (by omega)]
      simp only [List.cons.injEq, ofNat_eq_iff, and_true]
      omega

theorem exists_sequence_utf8EncodeChar (c : Char) :
    ∃ n, Sequence n (String.utf8EncodeChar c) := by
  have hvalid : c.val.toNat < 55296 ∨ 57343 < c.val.toNat ∧ c.val.toNat < 1114112 := c.valid
  rw [String.utf8EncodeChar]
  generalize c.val.toNat = n at hvalid
  have htail : ∀ m, isTail (UInt8.ofNat (m % 64 + 128)) := by
    intro m
    rw [isTail_iff, UInt8.toNat_ofNat']
    omega
  split
  · refine ⟨_, .one ?_⟩
    rw [UInt8.toNat_ofNat']
    omega
  · split
    · refine ⟨_, .two ?_ (htail _)⟩
      rw [UInt8.toNat_ofNat']
      omega
    · split
      · refine ⟨_, .three (beginsThree_iff.mpr ?_) (htail _)⟩
        simp only [htail, UInt8.toNat_ofNat', true_and]
        omega
      · refine ⟨_, .four (beginsFour_iff.mpr ?_) (htail _) (htail _)⟩
        simp only [htail, UInt8.toNat_ofNat', true_and]
        omega

/-! ## The front of a text -/

theorem le_127_iff : a ≤ 0x7f ↔ a.toNat ≤ 127 := UInt8.le_iff_toNat_le

theorem leadsTwo_iff : (0xc2 ≤ a && a ≤ 0xdf) = true ↔ 194 ≤ a.toNat ∧ a.toNat ≤ 223 := by
  simp only [Bool.and_eq_true, decide_eq_true_eq, UInt8.le_iff_toNat_le, UInt8.reduceToNat]

/-- Where a character is taken from the front, its bytes stand there. -/
theorem exists_sequence_of_front (h : front a rest = .char c k) :
    ∃ n tail more, Sequence n (a :: tail) ∧ rest = tail ++ more ∧ c = Char.ofNat n ∧
      k = tail.length := by
  revert h
  fun_cases front a rest with
  | case1 ha =>
      intro h
      obtain ⟨rfl, rfl⟩ := Front.char.inj h
      exact ⟨_, [], [], .one (le_127_iff.mp ha), rfl, rfl, rfl⟩
  | case3 b rest ha =>
      intro h
      obtain ⟨rfl, rfl⟩ := Front.char.inj h
      exact ⟨_, [], b :: rest, .one (le_127_iff.mp ha), rfl, rfl, rfl⟩
  | case4 b rest _ hlead hb =>
      intro h
      obtain ⟨rfl, rfl⟩ := Front.char.inj h
      exact ⟨_, [b], rest, .two (leadsTwo_iff.mp hlead) hb, rfl, rfl, rfl⟩
  | case6 b _ _ hlead c more hc =>
      intro h
      obtain ⟨rfl, rfl⟩ := Front.char.inj h
      exact ⟨_, [b, c], more, .three hlead hc, rfl, rfl, rfl⟩
  | case9 b _ _ _ hlead c d more htails =>
      intro h
      obtain ⟨hc, hd⟩ := Bool.and_eq_true_iff.mp htails
      obtain ⟨rfl, rfl⟩ := Front.char.inj h
      exact ⟨_, [b, c, d], more, .four hlead hc hd, rfl, rfl, rfl⟩
  | _ =>
      intro h
      simp at h

theorem front_of_sequence (h : Sequence n (a :: bs)) (rest : Bytes) :
    front a (bs ++ rest) = .char (Char.ofNat n) bs.length := by
  cases h with
  | one h =>
      have ha : a ≤ 0x7f := le_127_iff.mpr h
      cases rest with
      | nil => exact if_pos ha
      | cons b rest => exact if_pos ha
  | @two _ b h hb =>
      have ha : ¬ a ≤ 0x7f := by rw [le_127_iff]; omega
      have hlead := leadsTwo_iff.mpr h
      simp only [List.singleton_append, front, ha, hlead, hb, if_true, if_false]
      rfl
  | @three _ b c h hc =>
      have hrange := beginsThree_iff.mp h
      have ha : ¬ a ≤ 0x7f := by rw [le_127_iff]; omega
      have htwo : ¬ (0xc2 ≤ a && a ≤ 0xdf) = true := by rw [leadsTwo_iff]; omega
      simp only [List.cons_append, List.nil_append, front, ha, htwo, h, hc, if_true, if_false]
      rfl
  | @four _ b c d h hc hd =>
      have hrange := beginsFour_iff.mp h
      have ha : ¬ a ≤ 0x7f := by rw [le_127_iff]; omega
      have htwo : ¬ (0xc2 ≤ a && a ≤ 0xdf) = true := by rw [leadsTwo_iff]; omega
      have hthree : ¬ beginsThree a b = true := by rw [beginsThree_iff]; omega
      simp only [List.cons_append, List.nil_append, front, ha, htwo, hthree, h, hc, hd, if_true,
        if_false, Bool.and_self]
      rfl

/-! ## The whole text -/

theorem decodeAfter_append_length (bs rest : Bytes) :
    decodeAfter bs.length (bs ++ rest) = decode rest := by
  induction bs with
  | nil => rfl
  | cons b bs ih => exact ih

theorem decode_cons_append (h : Sequence n (a :: bs)) (rest : Bytes) :
    decode (a :: (bs ++ rest)) = (decode rest).map (Char.ofNat n :: ·) := by
  rw [decode, decodeAfter, front_of_sequence h]
  simp only [decodeAfter_append_length]

theorem decode_encode (cs : List Char) : decode (encode cs) = some cs := by
  induction cs with
  | nil => rfl
  | cons c cs ih =>
      obtain ⟨n, hn⟩ := exists_sequence_utf8EncodeChar c
      obtain ⟨a, bs, hbs⟩ := List.exists_cons_of_ne_nil (String.utf8EncodeChar_ne_nil (c := c))
      rw [hbs] at hn
      have hc : Char.ofNat n = c := by
        have hsame : String.utf8EncodeChar (Char.ofNat n) = String.utf8EncodeChar c :=
          hn.utf8EncodeChar_ofNat.trans hbs.symm
        exact eq_of_utf8EncodeChar_append_eq (congrArg (· ++ []) hsame)
      rw [encode_cons, hbs, List.cons_append, decode_cons_append hn, ih, hc]
      rfl

theorem encode_of_decode (h : decode bs = some cs) : encode cs = bs := by
  induction cs generalizing bs with
  | nil =>
      cases bs with
      | nil => rfl
      | cons a rest =>
          rw [decode, decodeAfter] at h
          split at h <;> simp at h
  | cons c cs ih =>
      cases bs with
      | nil => simp at h
      | cons a rest =>
          cases hfront : front a rest with
          | broken k => simp [decode, decodeAfter, hfront] at h
          | char d k =>
              obtain ⟨n, tail, more, hn, rfl, rfl, rfl⟩ := exists_sequence_of_front hfront
              rw [decode_cons_append hn] at h
              obtain ⟨rest, hrest, hcons⟩ := Option.map_eq_some_iff.mp h
              obtain ⟨rfl, rfl⟩ := List.cons.inj hcons
              rw [encode_cons, hn.utf8EncodeChar_ofNat, ih hrest, List.cons_append]

/-- Bytes are decoded to a text exactly when they are the bytes of that text. -/
theorem decode_eq_some_iff : decode bs = some cs ↔ encode cs = bs := by
  constructor
  · exact encode_of_decode
  · rintro rfl
    exact decode_encode cs

end PackageSweep.Utf8
