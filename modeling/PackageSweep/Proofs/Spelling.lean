import PackageSweep.Directory
import PackageSweep.Proofs.Pieces

/-!
# Spellings of one directory

A directory is known by the names on its path. Joining adds the names of a relative path to those of
the base, and tidying keeps them. The normal form is a function of the names too, though it cuts
them further at backslashes. So two directories with one resolved path have one normal form.
-/

namespace PackageSweep

namespace Path

/-- A name that an entry can have in its directory: one that leads down, by one step. -/
structure IsPlain (name : List Char) : Prop where
  ne_nil : name ≠ []
  ne_dot : name ≠ ['.']
  ne_dots : name ≠ ['.', '.']
  slash_notMem : '/' ∉ name
  nul_notMem : '\x00' ∉ name

variable {base path name : List Char} {names' : List (List Char)}

@[simp] theorem names_nil : names [] = [] := rfl

theorem isIdle_eq_false_iff : isIdle name = false ↔ name ≠ [] ∧ name ≠ ['.'] := by
  simp [isIdle]

theorem isIdle_of_mem_names (h : name ∈ names path) : isIdle name = false := by
  simpa using (List.mem_filter.mp h).2

theorem slash_notMem_of_mem_names (h : name ∈ names path) : '/' ∉ name := by
  intro hc
  have hp := Text.not_separates_of_mem_pieces (List.mem_filter.mp h).1 hc
  simp at hp

theorem mem_of_mem_names {c : Char} (h : name ∈ names path) (hc : c ∈ name) : c ∈ path :=
  Text.mem_of_mem_pieces (List.mem_filter.mp h).1 hc

theorem names_append_slash (p q : List Char) : names (p ++ '/' :: q) = names p ++ names q := by
  rw [names, Text.pieces_append_cons p q (by simp), List.filter_append]
  rfl

theorem names_slash_cons (p : List Char) : names ('/' :: p) = names p :=
  names_append_slash [] p

theorem names_joined (h : ∀ n ∈ names', isIdle n = false ∧ '/' ∉ n) :
    names (Text.joined '/' names') = names' := by
  by_cases hne : names' = []
  · subst hne
    rfl
  · rw [names, Text.pieces_joined hne fun n hn => (h n hn).2, List.filter_eq_self]
    intro n hn
    simp [(h n hn).1]

theorem names_eq_singleton (hidle : isIdle name = false) (hslash : '/' ∉ name) :
    names name = [name] := by
  have h : names (Text.joined '/' [name]) = [name] := by
    apply names_joined
    intro n hn
    obtain rfl := List.mem_singleton.mp hn
    exact ⟨hidle, hslash⟩
  rwa [Text.joined_singleton] at h

@[simp] theorem names_tidy (path : List Char) : names (tidy path) = names path := by
  have h : names (Text.joined '/' (names path)) = names path :=
    names_joined fun n hn => ⟨isIdle_of_mem_names hn, slash_notMem_of_mem_names hn⟩
  rw [tidy]
  split
  · rw [names_slash_cons, h]
  · exact h

theorem head?_joined_ne_slash (h : ∀ n ∈ names', n ≠ [] ∧ '/' ∉ n) :
    (Text.joined '/' names').head? ≠ some '/' := by
  cases names' with
  | nil => simp
  | cons n ns =>
      obtain ⟨hn, hslash⟩ := h n List.mem_cons_self
      cases n with
      | nil => exact absurd rfl hn
      | cons c cs =>
          have hc : c ≠ '/' := fun hc => hslash (hc ▸ List.mem_cons_self)
          cases ns with
          | nil => simpa using hc
          | cons m ms => simpa using hc

@[simp] theorem isAbsolute_tidy (path : List Char) : isAbsolute (tidy path) = isAbsolute path := by
  cases h : isAbsolute path with
  | true =>
      rw [tidy, if_pos h]
      rfl
  | false =>
      have hj := head?_joined_ne_slash fun n (hn : n ∈ names path) =>
        ⟨(isIdle_eq_false_iff.mp (isIdle_of_mem_names hn)).1, slash_notMem_of_mem_names hn⟩
      rw [tidy, if_neg (by simp [h])]
      simpa [isAbsolute] using hj

/-- A relative path goes on from the base: it keeps the names of the base and adds its own. -/
theorem names_join (h : isAbsolute path = false) :
    names (join base path) = names base ++ names path := by
  rw [join, if_neg (by simp [h])]
  split
  · rename_i hbase
    rcases hbase with rfl | hlast
    · simp
    · obtain ⟨b, rfl⟩ := List.getLast?_eq_some_iff.mp hlast
      rw [List.append_assoc, List.singleton_append, names_append_slash, names_append_slash,
        names_nil, List.append_nil]
  · exact names_append_slash base path

theorem isAbsolute_join (h : isAbsolute path = false) :
    isAbsolute (join base path) = isAbsolute base := by
  rw [join, if_neg (by simp [h])]
  cases base with
  | nil => simpa [isAbsolute] using h
  | cons c cs => split <;> simp [isAbsolute]

theorem tidy_of_relative (h : isAbsolute path = false) :
    tidy path = Text.joined '/' (names path) := by
  simp [tidy, h]

end Path

namespace Directory

variable {root a b : String}

/-- Comparing cuts the names of the path further, at their backslashes. -/
theorem parts_eq_flatMap_names (directory : List Char) :
    parts directory = (Path.names directory).flatMap parts := by
  have hfiner : ∀ c : Char, (c == '/') = true → isSeparator c = true := by
    intro c hc
    simp [isSeparator, hc]
  have hidle : ∀ n : List Char, Path.isIdle n → parts n = [] := by
    intro n hn
    rcases Bool.or_eq_true _ _ ▸ hn with hn | hn <;> rw [eq_of_beq hn] <;> rfl
  rw [parts, ← Text.flatMap_pieces_pieces hfiner, List.filter_flatMap, Path.names]
  induction Text.pieces (· == '/') directory with
  | nil => rfl
  | cons n ns ih =>
      rw [List.flatMap_cons, List.filter_cons, ih]
      split
      · rfl
      · rename_i h
        have hn := hidle n (by simpa using h)
        rw [parts] at hn
        rw [hn, List.nil_append]

theorem normalForm_eq_of_names_eq (h : Path.names a.toList = Path.names b.toList) :
    normalForm a = normalForm b := by
  rw [normalForm, normalForm, parts_eq_flatMap_names, h, ← parts_eq_flatMap_names]

theorem toList_resolve (root directory : String) :
    (resolve root directory).toList = Path.join root.toList (Path.tidy directory.toList) :=
  String.toList_ofList

theorem names_resolve (ha : Path.isAbsolute a.toList = false) :
    Path.names (resolve root a).toList = Path.names root.toList ++ Path.names a.toList := by
  rw [toList_resolve, Path.names_join (by simpa using ha), Path.names_tidy]

/-- Below one root, paths that lead to one lexical directory are spelled alike. -/
theorem resolve_eq_of_names_eq (ha : Path.isAbsolute a.toList = false)
    (hb : Path.isAbsolute b.toList = false)
    (h : Path.names (resolve root a).toList = Path.names (resolve root b).toList) :
    resolve root a = resolve root b := by
  rw [names_resolve ha, names_resolve hb] at h
  rw [resolve, resolve, Path.tidy_of_relative ha, Path.tidy_of_relative hb,
    List.append_cancel_left h]

/-- Directories that commands cannot tell apart cannot be told apart by comparing. -/
theorem normalForm_eq_of_resolve_eq (ha : Path.isAbsolute a.toList = false)
    (hb : Path.isAbsolute b.toList = false) (h : resolve root a = resolve root b) :
    normalForm a = normalForm b := by
  apply normalForm_eq_of_names_eq
  have hnames := congrArg (fun p => Path.names p.toList) h
  rw [names_resolve ha, names_resolve hb] at hnames
  exact List.append_cancel_left hnames

/-! ## Directories without backslashes -/

/-- Without a backslash, comparing sees the names of the path. -/
theorem parts_eq_names {directory : List Char} (h : '\\' ∉ directory) :
    parts directory = Path.names directory := by
  have hsame : ∀ c ∈ directory, isSeparator c = (c == '/') := by
    intro c hc
    have hne : c ≠ '\\' := fun hc' => h (hc' ▸ hc)
    simp [isSeparator, hne]
  rw [parts, Path.names, Text.pieces_congr hsame]

theorem toList_normalForm (ha : Path.isAbsolute a.toList = false) (h : '\\' ∉ a.toList) :
    (normalForm a).toList = Path.tidy a.toList := by
  rw [normalForm, String.toList_ofList, parts_eq_names h, Path.tidy_of_relative ha]

/-- The path where commands run is the normal form as seen from the root. -/
theorem resolve_eq_join_normalForm (root : String) (ha : Path.isAbsolute a.toList = false)
    (h : '\\' ∉ a.toList) :
    resolve root a = String.ofList (Path.join root.toList (normalForm a).toList) := by
  rw [resolve, toList_normalForm ha h]

theorem isAbsolute_normalForm (ha : Path.isAbsolute a.toList = false) (h : '\\' ∉ a.toList) :
    Path.isAbsolute (normalForm a).toList = false := by
  rw [toList_normalForm ha h, Path.isAbsolute_tidy, ha]

theorem names_normalForm (ha : Path.isAbsolute a.toList = false) (h : '\\' ∉ a.toList) :
    Path.names (normalForm a).toList = Path.names a.toList := by
  rw [toList_normalForm ha h, Path.names_tidy]

theorem resolve_normalForm (root : String) (ha : Path.isAbsolute a.toList = false)
    (h : '\\' ∉ a.toList) : resolve root (normalForm a) = resolve root a := by
  have hnormal := isAbsolute_normalForm ha h
  apply resolve_eq_of_names_eq hnormal ha
  rw [names_resolve hnormal, names_resolve ha, names_normalForm ha h]

end Directory

end PackageSweep
