import PackageSweep.Proofs.Spelling

/-!
# Normal forms of directories

A normal form is known by its shape: there is no backslash in it, and its slashes stand between
names that are neither empty nor a dot. Joining the parts of a directory gives this shape, and a
text that has it is its own normal form, since cutting and joining undo each other there. Two
directories with a separator between them have the parts of the one and then those of the other.
-/

namespace PackageSweep

namespace Directory

/-- The shape of a normal form. The empty text has it, though its one part is empty. -/
structure IsNormal (text : String) : Prop where
  backslash_notMem : '\\' ∉ text.toList
  ne_nil_of_mem : text ≠ "" → ∀ part ∈ text.toList.splitOn '/', part ≠ []
  ne_dot_of_mem : ∀ part ∈ text.toList.splitOn '/', part ≠ ['.']
  head?_ne_slash : text.toList.head? ≠ some '/'
  getLast?_ne_slash : text.toList.getLast? ≠ some '/'

/-- A name that comparing sees as one. -/
structure IsPart (name : List Char) : Prop where
  not_idle : Path.isIdle name = false
  not_separator : ∀ c ∈ name, isSeparator c = false

/-- Two texts with a slash between them, or the one of them that is not empty. -/
def linked (x y : String) : String :=
  if x = "" then y else if y = "" then x else x ++ "/" ++ y

variable {text : String} {name : List Char} {ns ms : List (List Char)}

theorem isPart_of_mem_parts {directory : List Char} (h : name ∈ parts directory) : IsPart name := by
  obtain ⟨hpiece, hidle⟩ := List.mem_filter.mp h
  exact ⟨by simpa using hidle, fun c hc => Text.not_separates_of_mem_pieces hpiece hc⟩

theorem IsPart.ne_nil (h : IsPart name) : name ≠ [] :=
  (Path.isIdle_eq_false_iff.mp h.not_idle).1

theorem IsPart.ne_dot (h : IsPart name) : name ≠ ['.'] :=
  (Path.isIdle_eq_false_iff.mp h.not_idle).2

theorem IsPart.slash_notMem (h : IsPart name) : '/' ∉ name := by
  intro hc
  have hslash : isSeparator '/' = false := h.not_separator '/' hc
  simp [isSeparator] at hslash

theorem IsPart.backslash_notMem (h : IsPart name) : '\\' ∉ name := by
  intro hc
  have hbackslash : isSeparator '\\' = false := h.not_separator '\\' hc
  simp [isSeparator] at hbackslash

theorem backslash_notMem_joined (h : ∀ n ∈ ns, IsPart n) : '\\' ∉ Text.joined '/' ns := by
  intro hc
  rcases Text.mem_joined hc with hslash | ⟨n, hn, hmem⟩
  · exact absurd hslash (by decide)
  · exact (h n hn).backslash_notMem hmem

/-! ## The shape of normal forms -/

theorem isNormal_empty : IsNormal "" where
  backslash_notMem := List.not_mem_nil
  ne_nil_of_mem h := absurd rfl h
  ne_dot_of_mem := by simp
  head?_ne_slash := by simp
  getLast?_ne_slash := by simp

theorem isNormal_joined (h : ∀ n ∈ ns, IsPart n) :
    IsNormal (String.ofList (Text.joined '/' ns)) := by
  by_cases hns : ns = []
  · subst hns
    exact isNormal_empty
  · have hsplit : (Text.joined '/' ns).splitOn '/' = ns :=
      List.splitOn_intercalate '/' (fun n hn => (h n hn).slash_notMem) hns
    -- A slash at an end would leave an empty piece, and no part is empty.
    have hnil : [] ∉ Text.pieces (· == '/') (Text.joined '/' ns) := by
      rw [Text.pieces_eq_splitOn, hsplit]
      exact fun hmem => (h [] hmem).ne_nil rfl
    have hhead : (Text.joined '/' ns).head? ≠ some '/' :=
      fun hslash => hnil (Text.nil_mem_pieces (.inl hslash))
    have hlast : (Text.joined '/' ns).getLast? ≠ some '/' :=
      fun hslash => hnil (Text.nil_mem_pieces (.inr hslash))
    refine ⟨?_, fun _ => ?_, ?_, ?_, ?_⟩ <;> rw [String.toList_ofList]
    · exact backslash_notMem_joined h
    · rw [hsplit]
      exact fun n hn => (h n hn).ne_nil
    · rw [hsplit]
      exact fun n hn => (h n hn).ne_dot
    · exact hhead
    · exact hlast

theorem isNormal_normalForm (a : String) : IsNormal (normalForm a) :=
  isNormal_joined fun _ => isPart_of_mem_parts

/-! ## Texts that are their own normal form -/

theorem IsNormal.joined_parts (h : IsNormal text) :
    Text.joined '/' (parts text.toList) = text.toList := by
  by_cases hempty : text = ""
  · subst hempty
    rfl
  · have hkept : Path.names text.toList = Text.pieces (· == '/') text.toList := by
      refine List.filter_eq_self.mpr fun part hpart => ?_
      rw [Text.pieces_eq_splitOn] at hpart
      have hidle : Path.isIdle part = false := Path.isIdle_eq_false_iff.mpr
        ⟨h.ne_nil_of_mem hempty part hpart, h.ne_dot_of_mem part hpart⟩
      simp [hidle]
    rw [parts_eq_names h.backslash_notMem, hkept]
    exact Text.joined_pieces '/' text.toList

theorem IsNormal.normalForm_eq (h : IsNormal text) : normalForm text = text := by
  rw [normalForm, h.joined_parts, String.ofList_toList]

theorem isNormal_iff_normalForm_eq : IsNormal text ↔ normalForm text = text :=
  ⟨IsNormal.normalForm_eq, fun h => h ▸ isNormal_normalForm text⟩

theorem normalForm_normalForm (a : String) : normalForm (normalForm a) = normalForm a :=
  (isNormal_normalForm a).normalForm_eq

/-! ## Two directories with a separator between them -/

theorem parts_append_cons {c : Char} (h : isSeparator c = true) (xs ys : List Char) :
    parts (xs ++ c :: ys) = parts xs ++ parts ys := by
  rw [parts, Text.pieces_append_cons xs ys h, List.filter_append]
  rfl

theorem joined_eq_empty_iff (h : ∀ n ∈ ns, IsPart n) :
    String.ofList (Text.joined '/' ns) = "" ↔ ns = [] := by
  rw [← Text.joined_eq_nil_iff fun n hn => (h n hn).ne_nil]
  exact String.ofList_eq_empty_iff

theorem joined_append_eq_linked (hns : ∀ n ∈ ns, IsPart n) (hms : ∀ m ∈ ms, IsPart m) :
    String.ofList (Text.joined '/' (ns ++ ms)) =
      linked (String.ofList (Text.joined '/' ns)) (String.ofList (Text.joined '/' ms)) := by
  by_cases hn : ns = []
  · rw [linked, if_pos ((joined_eq_empty_iff hns).mpr hn), hn, List.nil_append]
  · rw [linked, if_neg (mt (joined_eq_empty_iff hns).mp hn)]
    by_cases hm : ms = []
    · rw [if_pos ((joined_eq_empty_iff hms).mpr hm), hm, List.append_nil]
    · rw [if_neg (mt (joined_eq_empty_iff hms).mp hm), Text.joined_append '/' hn hm]
      apply String.toList_injective
      simp

theorem normalForm_of_separated {c : Char} (h : isSeparator c = true) {a b : String}
    (htext : text.toList = a.toList ++ c :: b.toList) :
    normalForm text = linked (normalForm a) (normalForm b) := by
  rw [normalForm, htext, parts_append_cons h]
  exact joined_append_eq_linked (fun _ => isPart_of_mem_parts) (fun _ => isPart_of_mem_parts)

/-- Normal forms have no backslash, no empty part, no part that is a dot and no slash at an end; the
texts of this shape are the normal forms, each of them its own; and the normal form of two
directories with a separator between them, of either kind, is that of the one and that of the other.
-/
theorem normalForm_canonical :
    (∀ a, IsNormal (normalForm a)) ∧
    (∀ a, IsNormal a ↔ normalForm a = a) ∧
    IsNormal "" ∧
    (∀ a, normalForm (normalForm a) = normalForm a) ∧
    (∀ a, IsNormal a ↔ ∃ b, normalForm b = a) ∧
    ∀ a b, normalForm (a ++ "/" ++ b) = linked (normalForm a) (normalForm b) ∧
      normalForm (a ++ "\\" ++ b) = linked (normalForm a) (normalForm b) := by
  refine ⟨isNormal_normalForm, fun a => isNormal_iff_normalForm_eq, isNormal_empty,
    normalForm_normalForm, fun a => ⟨fun h => ⟨a, h.normalForm_eq⟩, ?_⟩, fun a b => ⟨?_, ?_⟩⟩
  · rintro ⟨b, rfl⟩
    exact isNormal_normalForm b
  · have hslash : isSeparator '/' = true := by decide
    exact normalForm_of_separated hslash (by simp)
  · have hbackslash : isSeparator '\\' = true := by decide
    exact normalForm_of_separated hbackslash (by simp)

/-- Names of dots, and with a blank, are kept. -/
example : normalForm "./a\\.. //.../" = linked "a" ".. /..." := by decide +kernel

end Directory

end PackageSweep
