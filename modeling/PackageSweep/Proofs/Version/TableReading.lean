import Mathlib.Data.List.DropRight
import Mathlib.Data.List.Forall2
import PackageSweep.Proofs.Pieces
import PackageSweep.Version.Table

/-!
# Reading a version table

A table is read line by line, and a line by its bars. A field comes back from its cell as long as it
has no bar, no line feed and no space at either end: padding adds spaces only, and taking spaces off
the ends stops at the field.
-/

namespace PackageSweep.Version

/-- A text that a cell does not blur. -/
structure Plain (field : String) : Prop where
  no_bar : '|' ∉ field.toList
  no_feed : '\n' ∉ field.toList
  first : field.toList.head? ≠ some ' '
  last : field.toList.getLast? ≠ some ' '

instance (field : String) : Decidable (Plain field) :=
  decidable_of_iff ('|' ∉ field.toList ∧ '\n' ∉ field.toList ∧
      field.toList.head? ≠ some ' ' ∧ field.toList.getLast? ≠ some ' ')
    ⟨fun ⟨hbar, hfeed, hfirst, hlast⟩ => ⟨hbar, hfeed, hfirst, hlast⟩,
      fun h => ⟨h.no_bar, h.no_feed, h.first, h.last⟩⟩

namespace Row

def fields (r : Row) : List String := [r.directory, r.current, r.next]

def Plain (r : Row) : Prop := ∀ field ∈ r.fields, Version.Plain field

instance (r : Row) : Decidable r.Plain := inferInstanceAs (Decidable (∀ _ ∈ _, _))

/-- No field is wider than its column. -/
def Fits (r : Row) : Prop :=
  r.directory.length ≤ nameWidth ∧ r.current.length ≤ versionWidth ∧ r.next.length ≤ versionWidth

end Row

/-! ## Reading -/

/-- A text without the spaces at its ends. -/
def unpadded (cs : List Char) : List Char := (cs.dropWhile (· == ' ')).rdropWhile (· == ' ')

/-- The row in a line: what stands between the bars, nothing outside them. -/
def Row.ofLine? (line : List Char) : Option Row :=
  match Text.pieces (· == '|') line with
  | [[], directory, current, next, []] =>
      some ⟨String.ofList (unpadded directory), String.ofList (unpadded current),
        String.ofList (unpadded next)⟩
  | _ => none

/-- The lines of a text that ends each of them with a line feed. -/
def linesOf (text : String) : List (List Char) := (Text.pieces (· == '\n') text.toList).dropLast

/-- The rows of a table, those after its two lines of headings. -/
def readTable? (text : String) : Option (List Row) := ((linesOf text).drop 2).mapM Row.ofLine?

/-! ## Cells -/

/-- A field in a column: spaces follow it, up to the width of the column. -/
structure Cell (width : Nat) (field : String) (cell : List Char) : Prop where
  spaced : ∃ spaces, cell = field.toList ++ spaces ∧ ∀ c ∈ spaces, c = ' '
  length_eq : cell.length = max field.length width

/-- A line with a cell for each field of a row. -/
inductive Row.Written (r : Row) : List Char → Prop where
  | cells {directory current next : List Char} (hdirectory : Cell nameWidth r.directory directory)
      (hcurrent : Cell versionWidth r.current current) (hnext : Cell versionWidth r.next next) :
      Written r (['|', ' '] ++ directory ++ [' ', '|', ' '] ++ current ++ [' ', '|', ' '] ++ next ++
        [' ', '|'])

variable {r : Row} {rows : List Row} {field : String} {before after cs line cell : List Char}
  {width : Nat}

theorem cell_padded (width : Nat) (field : String) :
    Cell width field (padded width field.toList) where
  spaced := ⟨_, rfl, fun _ hc => (List.mem_replicate.mp hc).2⟩
  length_eq := by
    rw [padded, List.length_append, List.length_replicate, String.length_toList]
    omega

theorem Cell.not_mem {c : Char} (h : Cell width field cell) (hspace : c ≠ ' ')
    (hfield : c ∉ field.toList) : c ∉ cell := by
  obtain ⟨spaces, rfl, hspaces⟩ := h.spaced
  intro hc
  rcases List.mem_append.mp hc with hc | hc
  · exact hfield hc
  · exact hspace (hspaces c hc)

theorem Cell.length_of_le (h : Cell width field cell) (hle : field.length ≤ width) :
    cell.length = width := by
  rw [h.length_eq, Nat.max_eq_right hle]

/-- Spaces come off both ends, and those inside stay. -/
theorem unpadded_eq (hbefore : ∀ c ∈ before, c = ' ') (hafter : ∀ c ∈ after, c = ' ')
    (hfirst : cs.head? ≠ some ' ') (hlast : cs.getLast? ≠ some ' ') :
    unpadded (before ++ (cs ++ after)) = cs := by
  have hbefore' : ∀ c ∈ before, (c == ' ') = true := fun c hc => beq_iff_eq.mpr (hbefore c hc)
  have hafter' : ∀ c ∈ after, (c == ' ') = true := fun c hc => beq_iff_eq.mpr (hafter c hc)
  rw [unpadded, List.dropWhile_append_of_pos hbefore']
  cases cs with
  | nil => rw [List.nil_append, List.dropWhile_eq_nil_iff.mpr hafter', List.rdropWhile_nil]
  | cons c cs =>
      have hc : ¬ (c == ' ') = true := fun hc => hfirst (congrArg some (beq_iff_eq.mp hc))
      have hdrop : (c :: cs ++ after).dropWhile (· == ' ') = c :: cs ++ after :=
        List.dropWhile_cons_of_neg hc
      have hreverse : ∀ c ∈ after.reverse, (c == ' ') = true :=
        fun c hc => hafter' c (List.mem_reverse.mp hc)
      rw [hdrop, List.rdropWhile, List.reverse_append, List.dropWhile_append_of_pos hreverse]
      refine List.rdropWhile_eq_self_iff.mpr fun hne hspace => hlast ?_
      rw [List.getLast?_eq_some_getLast hne, beq_iff_eq.mp hspace]

theorem Cell.unpadded_eq (h : Cell width field cell) (hplain : Plain field) :
    String.ofList (unpadded (' ' :: (cell ++ [' ']))) = field := by
  obtain ⟨spaces, rfl, hspaces⟩ := h.spaced
  have hafter : ∀ c ∈ spaces ++ [' '], c = ' ' := by
    intro c hc
    rcases List.mem_append.mp hc with hc | hc
    · exact hspaces c hc
    · exact List.mem_singleton.mp hc
  have hbefore : ∀ c ∈ [' '], c = ' ' := fun c hc => List.mem_singleton.mp hc
  have htext := Version.unpadded_eq hbefore hafter hplain.first hplain.last
  rw [List.append_assoc, ← List.singleton_append, htext, String.ofList_toList]

/-! ## Lines -/

theorem Row.plain_iff :
    r.Plain ↔ Version.Plain r.directory ∧ Version.Plain r.current ∧ Version.Plain r.next := by
  simp [Row.Plain, Row.fields]

/-- The bars cut a line into its cells. -/
theorem Row.Written.ofLine? (h : r.Written line) (hplain : r.Plain) :
    Row.ofLine? line = some r := by
  obtain ⟨hdirectory, hcurrent, hnext⟩ := h
  rename_i directory current next
  obtain ⟨hpd, hpc, hpn⟩ := Row.plain_iff.mp hplain
  have hline : ['|', ' '] ++ directory ++ [' ', '|', ' '] ++ current ++ [' ', '|', ' '] ++ next ++
      [' ', '|'] = Text.joined '|' [[], ' ' :: (directory ++ [' ']), ' ' :: (current ++ [' ']),
        ' ' :: (next ++ [' ']), []] := by
    simp
  have hbars : ∀ p ∈ [[], ' ' :: (directory ++ [' ']), ' ' :: (current ++ [' ']),
      ' ' :: (next ++ [' ']), []], '|' ∉ p := by
    have hd := hdirectory.not_mem (by decide) hpd.no_bar
    have hc := hcurrent.not_mem (by decide) hpc.no_bar
    have hn := hnext.not_mem (by decide) hpn.no_bar
    simp [hd, hc, hn]
  rw [Row.ofLine?, hline, Text.pieces_joined (by simp) hbars]
  simp only [hdirectory.unpadded_eq hpd, hcurrent.unpadded_eq hpc, hnext.unpadded_eq hpn]

theorem Row.Written.no_feed (h : r.Written line) (hplain : r.Plain) : '\n' ∉ line := by
  obtain ⟨hdirectory, hcurrent, hnext⟩ := h
  obtain ⟨hpd, hpc, hpn⟩ := Row.plain_iff.mp hplain
  have hd := hdirectory.not_mem (by decide) hpd.no_feed
  have hc := hcurrent.not_mem (by decide) hpc.no_feed
  have hn := hnext.not_mem (by decide) hpn.no_feed
  simp [hd, hc, hn]

theorem Row.Written.length_of_fits (h : r.Written line) (hfits : r.Fits) : line.length = 49 := by
  obtain ⟨hdirectory, hcurrent, hnext⟩ := h
  obtain ⟨hfd, hfc, hfn⟩ := hfits
  simp [hdirectory.length_of_le hfd, hcurrent.length_of_le hfc, hnext.length_of_le hfn, nameWidth,
    versionWidth]

theorem exists_written (r : Row) : ∃ line, r.line = line ++ ['\n'] ∧ r.Written line := by
  refine ⟨_, ?_, .cells (cell_padded nameWidth r.directory) (cell_padded versionWidth r.current)
    (cell_padded versionWidth r.next)⟩
  simp [Row.line]

/-- Rows are written one line each, in their order. -/
theorem exists_lines (rows : List Row) :
    ∃ lines, rows.flatMap Row.line = lines.flatMap (· ++ ['\n']) ∧
      List.Forall₂ Row.Written rows lines := by
  induction rows with
  | nil => exact ⟨[], rfl, .nil⟩
  | cons r rows ih =>
      obtain ⟨line, hline, hwritten⟩ := exists_written r
      obtain ⟨lines, hlines, hall⟩ := ih
      exact ⟨line :: lines, by rw [List.flatMap_cons, List.flatMap_cons, hline, hlines],
        .cons hwritten hall⟩

theorem forall_mem_of_written {lines : List (List Char)} {P : Row → Prop} {Q : List Char → Prop}
    (h : List.Forall₂ Row.Written rows lines) (hrows : ∀ r ∈ rows, P r)
    (hstep : ∀ r line, r.Written line → P r → Q line) : ∀ line ∈ lines, Q line := by
  induction h with
  | nil => simp
  | cons hwritten _ ih =>
      obtain ⟨hr, hrs⟩ := List.forall_mem_cons.mp hrows
      exact List.forall_mem_cons.mpr ⟨hstep _ _ hwritten hr, ih hrs⟩

theorem mapM_ofLine? {lines : List (List Char)} (h : List.Forall₂ Row.Written rows lines)
    (hplain : ∀ r ∈ rows, r.Plain) : lines.mapM Row.ofLine? = some rows := by
  induction h with
  | nil => rfl
  | cons hwritten _ ih =>
      obtain ⟨hr, hrs⟩ := List.forall_mem_cons.mp hplain
      rw [List.mapM_cons, hwritten.ofLine? hr, ih hrs]
      rfl

theorem plain_of_mem_table (h : ∀ r ∈ rows, r.Plain) :
    ∀ r ∈ heading :: rule :: rows, r.Plain := by
  have hheading : heading.Plain := by decide
  have hrule : rule.Plain := by decide
  simpa [hheading, hrule] using h

/-- The lines that a table is cut into are those it was written in. -/
theorem written_linesOf_table (h : ∀ r ∈ rows, r.Plain) :
    (table rows).toList = (linesOf (table rows)).flatMap (· ++ ['\n']) ∧
      List.Forall₂ Row.Written (heading :: rule :: rows) (linesOf (table rows)) ∧
      ∀ line ∈ linesOf (table rows), '\n' ∉ line := by
  obtain ⟨lines, hlines, hwritten⟩ := exists_lines (heading :: rule :: rows)
  have hfeed : ∀ line ∈ lines, '\n' ∉ line :=
    forall_mem_of_written hwritten (plain_of_mem_table h) fun _ _ => Row.Written.no_feed
  have htext : (table rows).toList = lines.flatMap (· ++ ['\n']) := by
    rw [table, String.toList_ofList, hlines]
  have hcut : linesOf (table rows) = lines := by
    rw [linesOf, htext, Text.pieces_flatMap_append_singleton hfeed, List.dropLast_concat]
  rw [hcut]
  exact ⟨htext, hwritten, hfeed⟩

theorem readTable?_table (h : ∀ r ∈ rows, r.Plain) : readTable? (table rows) = some rows := by
  obtain ⟨-, hwritten, -⟩ := written_linesOf_table h
  obtain ⟨first, rest, -, hrest, hfirst⟩ := List.forall₂_cons_left_iff.mp hwritten
  obtain ⟨second, lines, -, hlines, hsecond⟩ := List.forall₂_cons_left_iff.mp hrest
  have hdrop : (linesOf (table rows)).drop 2 = lines := by
    rw [hfirst, hsecond]
    rfl
  rw [readTable?, hdrop]
  exact mapM_ofLine? hlines h

/-- A table has a line for each of its rows after two lines of headings. Each line has a cell for
each field, and from the cells the rows are read back, so that no other rows have the same table. -/
theorem table_reads_back (h : ∀ r ∈ rows, r.Plain) :
    (table rows).toList = (linesOf (table rows)).flatMap (· ++ ['\n']) ∧
    (∀ line ∈ linesOf (table rows), '\n' ∉ line) ∧
    (linesOf (table rows)).length = 2 + rows.length ∧
    readTable? (table rows) = some rows ∧
    (∀ rows', (∀ r ∈ rows', r.Plain) → table rows' = table rows → rows' = rows) ∧
    List.Forall₂ Row.Written (heading :: rule :: rows) (linesOf (table rows)) ∧
    ((∀ r ∈ rows, r.Fits) → ∀ line ∈ linesOf (table rows), line.length = 49) := by
  obtain ⟨htext, hwritten, hfeed⟩ := written_linesOf_table h
  have hread := readTable?_table h
  refine ⟨htext, hfeed, ?_, hread, fun rows' h' hsame => ?_, hwritten, fun hfits => ?_⟩
  · have hlength := hwritten.length_eq
    simp only [List.length_cons] at hlength
    omega
  · have hread' := readTable?_table h'
    rw [hsame, hread] at hread'
    exact (Option.some.inj hread').symm
  · have hheading : heading.Fits := ⟨by decide, by decide, by decide⟩
    have hrule : rule.Fits := ⟨by decide, by decide, by decide⟩
    have hall : ∀ r ∈ heading :: rule :: rows, r.Fits :=
      List.forall_mem_cons.mpr ⟨hheading, List.forall_mem_cons.mpr ⟨hrule, hfits⟩⟩
    exact forall_mem_of_written hwritten hall fun _ _ => Row.Written.length_of_fits

/-- Fields that are empty, wider than their column or not in ASCII come back as well. -/
theorem uneven_table_reads_back :
    let rows : List Row :=
      [⟨"", "", ""⟩, ⟨"bindungen/größe mit leerraum", "1.2.3-βeta.10", "1.2.4"⟩,
        ⟨"核心", "0.1", "0.2"⟩]
    (∀ r ∈ rows, r.Plain) ∧ readTable? (table rows) = some rows ∧
      (linesOf (table rows)).length = 5 ∧
      (∀ line ∈ linesOf (table [⟨"", "", ""⟩, ⟨"核心", "0.1", "0.2"⟩]), line.length = 49) ∧
      table [⟨"", "", ""⟩] ≠ table rows := by
  intro rows
  have hplain : ∀ r ∈ rows, r.Plain := by decide
  obtain ⟨-, -, hlength, hread, hsame, -, -⟩ := table_reads_back hplain
  have hnarrow : ∀ r ∈ ([⟨"", "", ""⟩, ⟨"核心", "0.1", "0.2"⟩] : List Row), r.Plain := by decide
  obtain ⟨-, -, -, -, -, -, hwidth⟩ := table_reads_back hnarrow
  refine ⟨hplain, hread, hlength, hwidth ?_, fun heq => ?_⟩
  · simp only [Row.Fits]
    decide
  · exact absurd (hsame [⟨"", "", ""⟩] (by decide) heq) (by decide)

end PackageSweep.Version
