import PackageSweep.World.Environment

/-!
# Looking variables up

A look-up compares bytes, but no two texts begin with the same bytes unless they begin alike. So one
variable matters only to names that begin with its own: its name, and its name with an equals sign
and the beginning of its value.
-/

namespace PackageSweep

namespace Utf8

variable {c d : Char} {s t : List Char} {bs bs' : Bytes}

/-- The first character can be told from the bytes. -/
theorem eq_of_utf8EncodeChar_append_eq
    (h : String.utf8EncodeChar c ++ bs = String.utf8EncodeChar d ++ bs') : c = d := by
  have hbytes : (String.utf8EncodeChar c).toByteArray ++ bs.toByteArray =
      (String.utf8EncodeChar d).toByteArray ++ bs'.toByteArray := by
    rw [← List.toByteArray_append, ← List.toByteArray_append, h]
  have hc := @ByteArray.utf8DecodeChar?_utf8EncodeChar_append bs.toByteArray c
  rw [hbytes, ByteArray.utf8DecodeChar?_utf8EncodeChar_append] at hc
  exact (Option.some.inj hc).symm

theorem encode_cons (c : Char) (s : List Char) :
    encode (c :: s) = String.utf8EncodeChar c ++ encode s := rfl

/-- A text begins with all of another when its bytes do. -/
theorem isPrefix_of_encode (h : encode s <+: encode t) : s <+: t := by
  induction s generalizing t with
  | nil => exact List.nil_prefix
  | cons c s ih =>
      cases t with
      | nil =>
          rw [encode_nil, List.prefix_nil, encode_cons, List.append_eq_nil_iff] at h
          exact absurd h.1 String.utf8EncodeChar_ne_nil
      | cons d t =>
          obtain ⟨more, hmore⟩ := h
          rw [encode_cons, encode_cons, List.append_assoc] at hmore
          obtain rfl := eq_of_utf8EncodeChar_append_eq hmore
          exact List.cons_prefix_cons.mpr ⟨rfl, ih ⟨more, List.append_cancel_left hmore⟩⟩

/-- A zero byte comes from a zero character alone. -/
theorem zero_mem_utf8EncodeChar_iff : (0 : UInt8) ∈ String.utf8EncodeChar c ↔ c = '\x00' := by
  have hzero : ∀ n, (0 : UInt8) = UInt8.ofNat n ↔ n % 256 = 0 := by
    intro n
    rw [← UInt8.toNat_inj, UInt8.toNat_ofNat', eq_comm]
    rfl
  have hc : c = '\x00' ↔ c.val.toNat = 0 := by
    rw [← Char.val_inj, ← UInt32.toNat_inj]
    rfl
  rw [hc, String.utf8EncodeChar]
  split
  · rw [List.mem_singleton, hzero]
    omega
  · -- Every byte of a longer sequence has its highest bit set.
    have htail : ∀ n, ¬ (0 : UInt8) = UInt8.ofNat (n % 64 + 128) := by
      intro n
      rw [hzero]
      omega
    repeat' split
    all_goals
      simp only [List.mem_cons, List.not_mem_nil, or_false, htail, hzero]
      omega

theorem zero_mem_encode_iff : (0 : UInt8) ∈ encode s ↔ '\x00' ∈ s := by
  simp [encode, zero_mem_utf8EncodeChar_iff]

end Utf8

namespace Environment

variable {env env' : Environment} {key name : String}

/-- The name finds the variable with this key, at least for some value of it. -/
def AnswersTo (key name : String) : Prop := name = key ∨ key.toList ++ ['='] <+: name.toList

theorem written_eq (name : String) (value : Bytes) :
    written name value = Utf8.encode (name.toList ++ ['=']) ++ value := by
  rw [written, Utf8.ofString, Utf8.encode_append, List.append_assoc]
  rfl

theorem written_isPrefix_of_valueIn? {v : String × Bytes} {value : Bytes}
    (h : valueIn? name v = some value) : written name [] <+: written v.1 v.2 := by
  simp only [valueIn?] at h
  split at h
  · exact List.isPrefixOf_iff_prefix.mp ‹_›
  · simp at h

theorem answersTo_of_valueIn? {v : String × Bytes} {value : Bytes} (hv : '=' ∉ v.1.toList)
    (h : valueIn? name v = some value) : AnswersTo v.1 name := by
  have hkey := written_isPrefix_of_valueIn? h
  rw [written_eq, written_eq, List.append_nil] at hkey
  -- Name and key, each with its equals sign, are the beginning of one text.
  rcases List.prefix_or_prefix_of_prefix hkey (List.prefix_append _ _) with hle | hle
  · rcases List.prefix_concat_iff.mp (Utf8.isPrefix_of_encode hle) with heq | hle
    · exact .inl (String.toList_injective (List.append_cancel_right heq))
    · exact absurd (hle.subset (by simp)) hv
  · rcases List.prefix_concat_iff.mp (Utf8.isPrefix_of_encode hle) with heq | hle
    · exact .inl (String.toList_injective (List.append_cancel_right heq).symm)
    · exact .inr hle

theorem bytes?_unset (hkey : '=' ∉ key.toList) (h : ¬ AnswersTo key name) (env : Environment) :
    (env.unset key).bytes? name = env.bytes? name := by
  obtain ⟨vs⟩ := env
  have hnone : ∀ v : String × Bytes, v.1 = key → valueIn? name v = none := by
    rintro v rfl
    cases hvalue : valueIn? name v with
    | none => rfl
    | some value => exact absurd (answersTo_of_valueIn? hkey hvalue) h
  have hfind : (vs.filter (·.1 != key)).findSome? (valueIn? name) =
      vs.findSome? (valueIn? name) := by
    induction vs with
    | nil => rfl
    | cons v vs ih =>
        by_cases hv : v.1 = key
        · rw [List.filter_cons_of_neg (by simp [hv]), List.findSome?_cons, hnone v hv, ih]
        · rw [List.filter_cons_of_pos (by simp [hv]), List.findSome?_cons, List.findSome?_cons, ih]
  rw [bytes?, bytes?, unset, hfind]

/-- A variable does not matter to a name that does not find it. -/
theorem text?_congr (hkey : '=' ∉ key.toList) (henv : env.unset key = env'.unset key)
    (h : ¬ AnswersTo key name) : env.text? name = env'.text? name := by
  rw [text?, text?, ← bytes?_unset hkey h env, ← bytes?_unset hkey h env', henv]

/-! ## Variables by their exact names -/

/-- An environment as it can be: names are names, and no value holds a zero byte. -/
structure Proper (env : Environment) : Prop where
  isName : ∀ v ∈ env.pairs, isName v.1
  zero_notMem : ∀ v ∈ env.pairs, (0 : UInt8) ∉ v.2

/-- The bytes of the variable with exactly this name. -/
def named? (env : Environment) (name : String) : Option Bytes := env.pairs.lookup name

/-- A text that is no name but may find a variable all the same: its name, an equals sign, and the
beginning of its value. -/
def Misleads (text : List Char) : Prop :=
  ∃ key rest, isName (String.ofList key) ∧ '\x00' ∉ rest ∧ text = key ++ '=' :: rest

theorem Proper.unset (h : env.Proper) (name : String) : (env.unset name).Proper :=
  ⟨fun v hv => h.isName v ((List.mem_filter.mp hv).1),
    fun v hv => h.zero_notMem v ((List.mem_filter.mp hv).1)⟩

/-- Setting variables makes proper environments only. -/
theorem Proper.set (h : env.Proper) (name : String) (value : Bytes) :
    (env.set name value).Proper := by
  rw [Environment.set]
  split
  · rename_i hallowed
    simp only [Bool.and_eq_true, Bool.not_eq_true', List.contains_eq_mem,
      decide_eq_false_iff_not] at hallowed
    have hunset := h.unset name
    constructor
    · intro v hv
      rcases List.mem_append.mp hv with hv | hv
      · exact hunset.isName v hv
      · obtain rfl := List.mem_singleton.mp hv
        exact hallowed.1
    · intro v hv
      rcases List.mem_append.mp hv with hv | hv
      · exact hunset.zero_notMem v hv
      · obtain rfl := List.mem_singleton.mp hv
        exact hallowed.2
  · exact h

theorem isName_iff {text : List Char} :
    isName (String.ofList text) ↔ text ≠ [] ∧ '=' ∉ text ∧ '\x00' ∉ text := by
  simp only [isName, Bool.and_eq_true, Bool.not_eq_true', String.toList_ofList, List.all_eq_true,
    bne_iff_ne, ne_eq]
  constructor
  · rintro ⟨hne, hall⟩
    refine ⟨?_, fun h => (hall _ h).1 rfl, fun h => (hall _ h).2 rfl⟩
    rintro rfl
    simp at hne
  · rintro ⟨hne, heq, hnul⟩
    refine ⟨?_, fun c hc => ⟨fun h => heq (h ▸ hc), fun h => hnul (h ▸ hc)⟩⟩
    rw [Bool.eq_false_iff]
    intro hempty
    exact hne (by simpa using hempty)

theorem valueIn?_self (name : String) (value : Bytes) :
    valueIn? name (name, value) = some value := by
  have hprefix : (written name []).isPrefixOf (written name value) := by
    rw [List.isPrefixOf_iff_prefix, written_eq, written_eq, List.append_nil]
    exact List.prefix_append _ _
  have hdrop : (written name value).drop (written name []).length = value := by
    rw [written_eq, written_eq, List.append_nil, List.drop_left]
  simp only [valueIn?]
  rw [if_pos hprefix, hdrop]

theorem isName_toList (h : isName name) :
    name.toList ≠ [] ∧ '=' ∉ name.toList ∧ '\x00' ∉ name.toList := by
  rw [← String.ofList_toList (s := name)] at h
  exact isName_iff.mp h

/-- A name that does not mislead finds the variable of its own name alone. -/
theorem valueIn?_eq_none {v : String × Bytes} (hv : isName v.1) (hzero : (0 : UInt8) ∉ v.2)
    (hne : name ≠ v.1) (h : ¬ Misleads name.toList) : valueIn? name v = none := by
  cases hfound : valueIn? name v with
  | none => rfl
  | some value =>
      obtain ⟨-, hequals, -⟩ := isName_toList hv
      rcases answersTo_of_valueIn? hequals hfound with heq | ⟨rest, hrest⟩
      · exact absurd heq hne
      · -- What the name has after the key begins the value, so it has no zero character either.
        have hkey := written_isPrefix_of_valueIn? hfound
        rw [written_eq, written_eq, List.append_nil, ← hrest, List.append_assoc, Utf8.encode_append,
          List.prefix_append_right_inj] at hkey
        have hnul : '\x00' ∉ rest := by
          intro hmem
          have hbytes := Utf8.zero_mem_encode_iff.mpr (List.mem_append_left ['='] hmem)
          exact hzero (hkey.subset hbytes)
        refine absurd ⟨v.1.toList, rest, ?_, hnul, ?_⟩ h
        · rwa [String.ofList_toList]
        · rw [← hrest, List.append_assoc]
          rfl

theorem bytes?_eq_named? (henv : env.Proper) (hname : name ≠ "") (h : ¬ Misleads name.toList) :
    env.bytes? name = env.named? name := by
  rw [bytes?, named?, if_neg (by simpa using hname)]
  have hproper := henv.isName
  have hzero := henv.zero_notMem
  clear henv
  obtain ⟨vs⟩ := env
  induction vs with
  | nil => rfl
  | cons v vs ih =>
      rw [List.findSome?_cons, List.lookup_cons]
      by_cases heq : name = v.1
      · rw [heq, valueIn?_self, beq_self_eq_true]
      · rw [valueIn?_eq_none (hproper v (.head _)) (hzero v (.head _)) heq h,
          beq_false_of_ne heq]
        exact ih (fun u hu => hproper u (.tail _ hu)) (fun u hu => hzero u (.tail _ hu))

end Environment

end PackageSweep
