import Mathlib.Data.List.Basic
import PackageSweep.Proofs.Config.Expansion
import PackageSweep.Proofs.Result
import PackageSweep.Proofs.World.Decoding
import PackageSweep.Proofs.World.Reading

/-!
# One source for the configuration

What stands at the end of the chosen path settles the configuration, and nothing else in the world
has a say. A file that cannot be used is a fault of the configuration. The built-in configuration is
for roots without a configuration file, and for those alone.
-/

namespace PackageSweep

/-- Something that can be read, and its text. -/
inductive Entry.Says : Entry → String → Prop
  | file (text : String) : Says (.file (Utf8.ofString text)) text
  | device : Says .device ""

namespace Config

/-- What comes of a path that a configuration is to be read from, going by what stands there. -/
inductive Settles (env : Environment) (path : String) :
    Option PackageSweep.Entry → Except Fault Config → Prop
  | config {e : PackageSweep.Entry} {text : String} {c : Config} (htext : e.Says text)
      (hparse : ofDocument (expand env text) = .ok c) : Settles env path (some e) (.ok c)
  | malformed {e : PackageSweep.Entry} {text : String} {cause : ConfigCause} (htext : e.Says text)
      (hparse : ofDocument (expand env text) = .error cause) :
      Settles env path (some e) (.error (.config cause))
  | notText {contents : Bytes} (hnot : ∀ text, Utf8.ofString text ≠ contents) :
      Settles env path (some (.file contents)) (.error (.config (.unreadable path .notText)))
  | directory : Settles env path (some .directory)
      (.error (.config (.unreadable path (.system .isDirectory))))
  | sealed (fault : SystemFault) : Settles env path (some (.sealed fault))
      (.error (.config (.unreadable path (.system fault))))
  | missing (cause : IoCause) : Settles env path none (.error (.config (.unreadable path cause)))

/-- The same is read at a path in two worlds, and what its text refers to has the same values. -/
structure SameFile (path : String) (w w' : World) : Prop where
  readText_eq : w'.readText path = w.readText path
  agreeOn : ∀ text, w.readText path = .ok text →
    AgreeOn w'.environment w.environment text.toList

/-- The path of the configuration file in a root. -/
def discovered (root : String) : String := Directory.entry root fileName

variable {env : Environment} {root path text : String} {w w' : World} {c : Config}
  {e : PackageSweep.Entry}

/-! ## Reading a chosen file -/

theorem settles_ofText (htext : e.Says text) : Settles env path (some e) (ofText env text) := by
  rw [ofText]
  cases hparse : ofDocument (expand env text) with
  | error cause => exact .malformed htext hparse
  | ok c => exact .config htext hparse

theorem settles_ofFile (w : World) (path : String) :
    Settles w.environment path (w.entryAt? path) (ofFile w path) := by
  rw [ofFile]
  cases hentry : w.entryAt? path with
  | none =>
      obtain ⟨cause, hcause⟩ := World.exists_readText_error hentry
      rw [hcause]
      exact .missing cause
  | some e =>
      cases e with
      | directory =>
          rw [World.readText_of_directory hentry]
          exact .directory
      | device =>
          rw [World.readText_of_device hentry]
          exact settles_ofText .device
      | sealed fault =>
          rw [World.readText_of_sealed hentry]
          exact .sealed fault
      | file contents =>
          by_cases htext : ∃ text, Utf8.ofString text = contents
          · obtain ⟨text, rfl⟩ := htext
            rw [World.readText_of_text hentry]
            exact settles_ofText (.file text)
          · have hnot : ∀ text, Utf8.ofString text ≠ contents := not_exists.mp htext
            rw [World.readText_of_not_text hentry hnot]
            exact .notText hnot

theorem ofString_eq {contents : Bytes} (h : PackageSweep.Entry.Says (.file contents) text) :
    Utf8.ofString text = contents := by
  cases h
  rfl

theorem says_unique {text' : String} (h : e.Says text) (h' : e.Says text') : text = text' := by
  cases h with
  | file text =>
      have hbytes : Utf8.encode text'.toList = Utf8.encode text.toList := ofString_eq h'
      have hlist : some text'.toList = some text.toList := by
        rw [← Utf8.decode_encode, hbytes, Utf8.decode_encode]
      exact (String.toList_injective (Option.some.inj hlist)).symm
  | device => cases h' with
    | device => rfl

/-- What stands at a path settles the configuration in one way only. -/
theorem Settles.unique {result result' : Except Fault Config}
    (h : Settles env path (some e) result) (h' : Settles env path (some e) result') :
    result = result' := by
  cases h with
  | config htext hparse =>
      cases h' with
      | config htext' hparse' =>
          obtain rfl := says_unique htext htext'
          obtain rfl := Except.ok.inj (hparse.symm.trans hparse')
          rfl
      | malformed htext' hparse' =>
          obtain rfl := says_unique htext htext'
          simp [hparse] at hparse'
      | notText hnot => exact absurd (ofString_eq htext) (hnot _)
      | directory => cases htext
      | sealed => cases htext
  | malformed htext hparse =>
      cases h' with
      | config htext' hparse' =>
          obtain rfl := says_unique htext htext'
          simp [hparse] at hparse'
      | malformed htext' hparse' =>
          obtain rfl := says_unique htext htext'
          obtain rfl := Except.error.inj (hparse.symm.trans hparse')
          rfl
      | notText hnot => exact absurd (ofString_eq htext) (hnot _)
      | directory => cases htext
      | sealed => cases htext
  | notText hnot =>
      cases h' with
      | config htext _ => exact absurd (ofString_eq htext) (hnot _)
      | malformed htext _ => exact absurd (ofString_eq htext) (hnot _)
      | notText _ => rfl
  | directory =>
      cases h' with
      | config htext _ => cases htext
      | malformed htext _ => cases htext
      | directory => rfl
  | sealed =>
      cases h' with
      | config htext _ => cases htext
      | malformed htext _ => cases htext
      | sealed => rfl

theorem Settles.isConfig {fault : Fault} {found : Option PackageSweep.Entry}
    {result : Except Fault Config}
    (h : Settles env path found result) (hfault : result = .error fault) :
    ∃ cause, fault = .config cause := by
  cases h with
  | config htext hparse => simp at hfault
  | malformed htext hparse => exact ⟨_, (Except.error.inj hfault).symm⟩
  | notText hnot => exact ⟨_, (Except.error.inj hfault).symm⟩
  | directory => exact ⟨_, (Except.error.inj hfault).symm⟩
  | sealed fault => exact ⟨_, (Except.error.inj hfault).symm⟩
  | missing cause => exact ⟨_, (Except.error.inj hfault).symm⟩

theorem ofFile_congr (h : SameFile path w w') : ofFile w' path = ofFile w path := by
  rw [ofFile, ofFile, h.readText_eq]
  cases htext : w.readText path with
  | error cause => rfl
  | ok text =>
      have hexpand : expand w'.environment text = expand w.environment text :=
        expand_congr (h.agreeOn text htext)
      simp only [ofText, hexpand]

/-! ## Choosing -/

theorem load_explicit (root path : String) (w : World) :
    (load root (some path) w).1 = ofFile w path := rfl

theorem load_discovered (h : w.isFile (discovered root) = true) :
    (load root none w).1 = ofFile w (discovered root) := by
  have hsource : Source.choose root none w = .file (discovered root) := if_pos h
  rw [load, hsource]
  rfl

theorem load_builtin (h : w.isFile (discovered root) = false) :
    (load root none w).1 = .ok builtin := by
  have hsource : Source.choose root none w = .builtin := by
    rw [Source.choose]
    exact if_neg (by simpa [discovered] using h)
  rw [load, hsource]
  rfl

theorem isConfig_of_load_error {explicit : Option String} {fault : Fault}
    (h : (load root explicit w).1 = .error fault) : ∃ cause, fault = .config cause := by
  cases explicit with
  | some path => exact (settles_ofFile w path).isConfig h
  | none =>
      cases hfile : w.isFile (discovered root) with
      | true =>
          rw [load_discovered hfile] at h
          exact (settles_ofFile w _).isConfig h
      | false =>
          rw [load_builtin hfile] at h
          simp at h

theorem load_congr_of_entryAt?
    (hentry : w'.entryAt? (discovered root) = w.entryAt? (discovered root))
    (henv : ∀ text, w.readText (discovered root) = .ok text →
      AgreeOn w'.environment w.environment text.toList) :
    (load root none w').1 = (load root none w).1 := by
  have hsame : w'.isFile (discovered root) = w.isFile (discovered root) :=
    World.isFile_congr hentry
  cases hfile : w.isFile (discovered root) with
  | true =>
      have htext : w'.readText (discovered root) = w.readText (discovered root) :=
        World.readText_congr hfile hentry
      rw [load_discovered hfile, load_discovered (hsame.trans hfile)]
      exact ofFile_congr ⟨htext, henv⟩
  | false => rw [load_builtin hfile, load_builtin (hsame.trans hfile)]

/-- An explicit path decides alone: what stands there settles the configuration, in every root and
every world where the same is read. Without one the configuration file in the root decides alone if
it is a file, and only where there is none the configuration is the built-in one. Whatever cannot be
used is a fault of the configuration. -/
theorem load_single_source (root : String) (w : World) :
    (∀ path, Settles w.environment path (w.entryAt? path) (load root (some path) w).1 ∧
      ∀ root' w', SameFile path w w' →
        (load root' (some path) w').1 = (load root (some path) w).1) ∧
    (∀ e, w.entryAt? (discovered root) = some e → e.isRegular = true →
      Settles w.environment (discovered root) (some e) (load root none w).1) ∧
    ((∀ e, w.entryAt? (discovered root) = some e → e.isRegular = false) →
      (load root none w).1 = .ok builtin) ∧
    (∀ w', w'.entryAt? (discovered root) = w.entryAt? (discovered root) →
      (∀ text, w.readText (discovered root) = .ok text →
        AgreeOn w'.environment w.environment text.toList) →
      (load root none w').1 = (load root none w).1) ∧
    ∀ explicit fault, (load root explicit w).1 = .error fault →
      ∃ cause, fault = .config cause := by
  refine ⟨fun path => ⟨settles_ofFile w path, ?_⟩, ?_, ?_, fun _ => load_congr_of_entryAt?,
    fun _ _ => isConfig_of_load_error⟩
  · intro root' w' hsame
    rw [load_explicit, load_explicit]
    exact ofFile_congr hsame
  · intro e hentry hregular
    rw [load_discovered (World.isFile_iff.mpr ⟨e, hentry, hregular⟩), ← hentry]
    exact settles_ofFile w _
  · intro hnot
    apply load_builtin
    apply Bool.eq_false_iff.mpr
    intro hfile
    obtain ⟨e, hentry, hregular⟩ := World.isFile_iff.mp hfile
    rw [hnot e hentry] at hregular
    exact absurd hregular (by decide)

/-- Roots with a configuration file that can be read and with one that cannot, a file that is no
text, and an empty directory. -/
def contested : World where
  tree := ⟨[(["ws"], .directory),
    (["ws", "workspace-run.toml"],
      .file (Utf8.ofString "[workspace]\npackages = [\"core\"]\n")),
    (["ci.toml"], .file [0x5b, 0xff]),
    (["locked"], .directory),
    (["locked", "workspace-run.toml"], .sealed .permissionDenied),
    (["conf"], .directory)]⟩
  here := []
  environment := .empty

/-- The file that is no text, and nothing else. -/
def deserted : World where
  tree := ⟨[(["ci.toml"], .file [0x5b, 0xff])]⟩
  here := []
  environment := .empty

theorem contested_single_source :
    (load "ws" (some "ci.toml") contested).1 =
        .error (.config (.unreadable "ci.toml" .notText)) ∧
      (load "conf" (some "ci.toml") deserted).1 =
        .error (.config (.unreadable "ci.toml" .notText)) ∧
      (load "ws" (some "conf") contested).1 =
        .error (.config (.unreadable "conf" (.system .isDirectory))) ∧
      (load "ws" none contested).1 = .ok ⟨["core"], none, none, none⟩ ∧
      (load "locked" none contested).1 = .error (.config
        (.unreadable "locked/workspace-run.toml" (.system .permissionDenied))) ∧
      (load "conf" none contested).1 = .ok builtin := by
  obtain ⟨hexplicit, hdiscovered, -, -, -⟩ := load_single_source "ws" contested
  obtain ⟨hgarbled, hsame⟩ := hexplicit "ci.toml"
  obtain ⟨hdirectory, -⟩ := hexplicit "conf"
  have hnotText : (load "ws" (some "ci.toml") contested).1 =
      .error (.config (.unreadable "ci.toml" .notText)) := by
    have hentry : contested.entryAt? "ci.toml" = some (.file [0x5b, 0xff]) := by decide +kernel
    have hdecode : Utf8.decode [0x5b, 0xff] = none := by decide +kernel
    rw [hentry] at hgarbled
    refine hgarbled.unique (.notText fun text htext => ?_)
    rw [← htext, Utf8.ofString, Utf8.decode_encode] at hdecode
    simp at hdecode
  refine ⟨hnotText, ?_, ?_, ?_, ?_, ?_⟩
  · rw [hsame "conf" deserted ⟨by decide +kernel, ?_⟩, hnotText]
    intro text htext name _
    rfl
  · have hentry : contested.entryAt? "conf" = some .directory := by decide +kernel
    rw [hentry] at hdirectory
    exact hdirectory.unique .directory
  · have hentry : contested.entryAt? (discovered "ws") = some (.file
        (Utf8.ofString "[workspace]\npackages = [\"core\"]\n")) := by
      decide +kernel
    refine (hdiscovered _ hentry rfl).unique (.config (.file _) ?_)
    decide +kernel
  · obtain ⟨-, hlocked, -⟩ := load_single_source "locked" contested
    have hpath : discovered "locked" = "locked/workspace-run.toml" := by decide +kernel
    have hentry : contested.entryAt? "locked/workspace-run.toml" =
        some (.sealed .permissionDenied) := by
      decide +kernel
    rw [hpath] at hlocked
    exact (hlocked _ hentry rfl).unique (.sealed .permissionDenied)
  · obtain ⟨-, -, hbuiltin, -, -⟩ := load_single_source "conf" contested
    apply hbuiltin
    intro e he
    have hentry : contested.entryAt? (discovered "conf") = none := by decide +kernel
    simp [hentry] at he

end Config

end PackageSweep
