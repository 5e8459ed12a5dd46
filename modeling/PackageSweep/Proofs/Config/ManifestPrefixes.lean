import PackageSweep.Config.Validation
import PackageSweep.Proofs.Trimming

/-!
# Beginnings of manifest commands

A command is looked at without the blanks before it, but the beginnings that it is compared with
keep theirs. So a beginning that has a blank in front is found in no command, and validation lets it
through all the same. It does no harm exactly when what follows its blanks has another beginning in
front that is found.
-/

namespace PackageSweep

namespace Text

/-- Before the first text, the second has blanks or nothing. -/
def StartsAfterBlanks (start cs : List Char) : Prop :=
  ∃ before after, cs = before ++ start ++ after ∧ ∀ c ∈ before, isBlank c

/-- The first character is a blank. -/
def BeginsBlank (cs : List Char) : Prop := ∃ c, cs.head? = some c ∧ isBlank c

variable {before cs start inner : List Char}

theorem startsAfterBlanks_self (cs : List Char) : StartsAfterBlanks cs cs :=
  ⟨[], [], by simp, by simp⟩

theorem StartsAfterBlanks.trans (h : StartsAfterBlanks inner start)
    (h' : StartsAfterBlanks start cs) : StartsAfterBlanks inner cs := by
  obtain ⟨before, after, rfl, hbefore⟩ := h
  obtain ⟨before', after', rfl, hbefore'⟩ := h'
  refine ⟨before' ++ before, after ++ after', by simp, ?_⟩
  intro c hc
  rcases List.mem_append.mp hc with hc | hc
  · exact hbefore' c hc
  · exact hbefore c hc

theorem not_beginsBlank_trimStart (cs : List Char) : ¬ BeginsBlank (trimStart cs) := by
  rintro ⟨c, hc, hblank⟩
  have hnot : isBlank c = false := head?_trimStart_not_blank hc
  rw [hblank] at hnot
  exact absurd hnot (by decide)

theorem BeginsBlank.of_front (h : BeginsBlank start) (hfront : start <+: cs) : BeginsBlank cs := by
  obtain ⟨c, hc, hblank⟩ := h
  obtain ⟨after, rfl⟩ := hfront
  refine ⟨c, ?_, hblank⟩
  rw [List.head?_append, hc]
  rfl

/-- What is in front once the blanks are taken off is what follows blanks and begins with none. -/
theorem prefix_trimStart_iff :
    start <+: trimStart cs ↔ ¬ BeginsBlank start ∧ StartsAfterBlanks start cs := by
  constructor
  · intro h
    obtain ⟨before, hcs, hbefore⟩ := exists_blank_append_trimStart cs
    refine ⟨fun hstart => not_beginsBlank_trimStart cs (hstart.of_front h), ?_⟩
    obtain ⟨after, hafter⟩ := h
    refine ⟨before, after, ?_, hbefore⟩
    rw [List.append_assoc, hafter]
    exact hcs
  · rintro ⟨hstart, before, after, rfl, hbefore⟩
    rw [List.append_assoc, trimStart_append_of_blank hbefore]
    cases start with
    | nil => exact List.nil_prefix
    | cons c start =>
        have hc : isBlank c = false := by
          apply Bool.eq_false_iff.mpr
          intro hblank
          exact hstart ⟨c, rfl, hblank⟩
        have hself : trimStart (c :: start ++ after) = c :: start ++ after := by
          apply trimStart_eq_self
          intro d hd
          obtain rfl := Option.some.inj hd
          exact hc
        rw [hself]
        exact List.prefix_append _ _

end Text

namespace Config

open Text (BeginsBlank StartsAfterBlanks isBlank)

variable {c : Config} {command : String}

/-- After its blanks, the command begins with one of the beginnings of manifest commands. -/
def StartsManifest (c : Config) (command : String) : Prop :=
  ∃ p ∈ c.manifestPrefixes, StartsAfterBlanks p.toList command.toList

theorem isManifestCommand_iff :
    c.isManifestCommand command ↔
      ∃ p ∈ c.manifestPrefixes, p.toList <+: Text.trimStart command.toList := by
  simp only [isManifestCommand, List.any_eq_true, List.isPrefixOf_iff_prefix]

/-- Only beginnings without a blank in front count. -/
theorem isManifestCommand_iff_startsAfterBlanks :
    c.isManifestCommand command ↔ ∃ p ∈ c.manifestPrefixes, ¬ BeginsBlank p.toList ∧
      StartsAfterBlanks p.toList command.toList := by
  simp only [isManifestCommand_iff, Text.prefix_trimStart_iff]

theorem startsManifest_of_isManifestCommand (h : c.isManifestCommand command) :
    c.StartsManifest command := by
  obtain ⟨p, hp, -, hstarts⟩ := isManifestCommand_iff_startsAfterBlanks.mp h
  exact ⟨p, hp, hstarts⟩

theorem isManifestCommand_append_of_blank {before : String}
    (h : ∀ ch ∈ before.toList, isBlank ch) :
    c.isManifestCommand (before ++ command) = c.isManifestCommand command := by
  rw [isManifestCommand, isManifestCommand, String.toList_append,
    Text.trimStart_append_of_blank h]

/-- Every beginning takes effect exactly if each one with a blank in front has, after its blanks,
one without: then the manifest commands are those that begin with one after their blanks. Blanks
before a command never matter. -/
theorem manifestPrefixes_effective_iff (c : Config) :
    ((∀ command, c.isManifestCommand command ↔ c.StartsManifest command) ↔
      ∀ p ∈ c.manifestPrefixes, BeginsBlank p.toList →
        ∃ q ∈ c.manifestPrefixes, ¬ BeginsBlank q.toList ∧ StartsAfterBlanks q.toList p.toList) ∧
    (∀ command, c.isManifestCommand command ↔ ∃ p ∈ c.manifestPrefixes,
      ¬ BeginsBlank p.toList ∧ StartsAfterBlanks p.toList command.toList) ∧
    ∀ before command : String, (∀ ch ∈ before.toList, isBlank ch) →
      c.isManifestCommand (before ++ command) = c.isManifestCommand command := by
  refine ⟨⟨?_, ?_⟩, fun _ => isManifestCommand_iff_startsAfterBlanks,
    fun _ _ => isManifestCommand_append_of_blank⟩
  · intro heffective p hp _
    -- The beginning is a command that begins with itself.
    have hcommand : c.isManifestCommand p :=
      (heffective p).mpr ⟨p, hp, Text.startsAfterBlanks_self p.toList⟩
    exact isManifestCommand_iff_startsAfterBlanks.mp hcommand
  · intro hfound command
    refine ⟨startsManifest_of_isManifestCommand, ?_⟩
    rintro ⟨p, hp, hstarts⟩
    apply isManifestCommand_iff_startsAfterBlanks.mpr
    by_cases hblank : BeginsBlank p.toList
    · obtain ⟨q, hq, hqblank, hqstarts⟩ := hfound p hp hblank
      exact ⟨q, hq, hqblank, hqstarts.trans hstarts⟩
    · exact ⟨p, hp, hblank, hstarts⟩

/-- A beginning with blanks in front, one of them not ASCII, after which there is another one. -/
def indented : Config where
  packages := ["a"]
  manifestCommands := some ["\t\u3000cargo test", "cargo t"]

theorem indented_effective :
    indented.validate = .ok () ∧ BeginsBlank "\t\u3000cargo test".toList ∧
      (∀ command, indented.isManifestCommand command ↔ indented.StartsManifest command) ∧
      indented.isManifestCommand "\u2003cargo" = indented.isManifestCommand "cargo" ∧
      indented.isManifestCommand "\t\u3000cargo test --all" := by
  have hblank : BeginsBlank "\t\u3000cargo test".toList := ⟨'\t', by decide +kernel, by decide⟩
  have hstarts : StartsAfterBlanks "cargo t".toList "\t\u3000cargo test".toList :=
    ⟨['\t', '\u3000'], "est".toList, by decide +kernel, List.all_eq_true.mp (by decide +kernel)⟩
  have hnot : ¬ BeginsBlank "cargo t".toList := by
    rintro ⟨ch, hch, hblank⟩
    obtain rfl : 'c' = ch := Option.some.inj hch
    exact absurd hblank (by decide)
  obtain ⟨heffective, -, hbefore⟩ := manifestPrefixes_effective_iff indented
  have hall : ∀ command, indented.isManifestCommand command ↔ indented.StartsManifest command := by
    apply heffective.mpr
    intro p hp _
    have hmem : p = "\t\u3000cargo test" ∨ p = "cargo t" := by
      simpa [indented, manifestPrefixes] using hp
    refine ⟨"cargo t", by decide, hnot, ?_⟩
    rcases hmem with rfl | rfl
    · exact hstarts
    · exact Text.startsAfterBlanks_self _
  have hspace : ∀ ch ∈ "\u2003".toList, isBlank ch := List.all_eq_true.mp (by decide +kernel)
  refine ⟨rfl, hblank, hall, hbefore "\u2003" "cargo" hspace, ?_⟩
  apply (hall _).mpr
  exact ⟨"\t\u3000cargo test", by decide, [], " --all".toList, by decide +kernel, by simp⟩

/-- A beginning with a blank in front and no other. -/
def padded : Config where
  packages := ["a"]
  manifestCommands := some [" cargo"]

/-- Validation lets a beginning through that is found in no command, not even in itself. -/
theorem padded_ineffective :
    padded.validate = .ok () ∧ padded.StartsManifest " cargo build" ∧
      padded.isManifestCommand " cargo build" = false ∧
      ∀ command, padded.isManifestCommand command = false := by
  have hnone : ∀ command, padded.isManifestCommand command = false := by
    intro command
    apply Bool.eq_false_iff.mpr
    intro h
    obtain ⟨p, hp, hnot, -⟩ := isManifestCommand_iff_startsAfterBlanks.mp h
    have hp' : p = " cargo" := by simpa [padded, manifestPrefixes] using hp
    rw [hp'] at hnot
    exact hnot ⟨' ', by decide +kernel, by decide⟩
  refine ⟨rfl, ?_, hnone _, hnone⟩
  exact ⟨" cargo", by decide, [], " build".toList, by decide +kernel, by simp⟩

end Config

end PackageSweep
