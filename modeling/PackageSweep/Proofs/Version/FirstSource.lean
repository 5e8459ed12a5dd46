import Mathlib.Data.List.Basic
import PackageSweep.Proofs.World.Reading
import PackageSweep.Version.Lookup

/-!
# The first source decides

What each source of a version yields is put here as a relation, one rule for each thing that can be
found in it. The version of a package is what the first source yields that yields anything, and
neither the sources after it nor anything else in the world matter to it.
-/

namespace PackageSweep.Version

open Toml (Value)

/-- The document in a TOML manifest, whose integers have to fit 64 bits. -/
def document? (text : String) : Option Value :=
  ((Toml.parse? text.toList).map (Value.table .header)).filter (·.allIntegers fitsManifest)

/-- What comes of reading a TOML manifest. -/
inductive Manifest (w : World) (path : String) : Except Fault Value → Prop
  | unreadable {cause : IoCause} (h : w.Unreadable path cause) :
      Manifest w path (.error (.io cause))
  | malformed {text : String} (h : w.readText path = .ok text) (hdocument : document? text = none) :
      Manifest w path (.error (.manifest path .notToml))
  | document {text : String} {manifest : Value} (h : w.readText path = .ok text)
      (hdocument : document? text = some manifest) : Manifest w path (.ok manifest)

def Source.path (root directory : String) (s : Source) : String :=
  Directory.entry (Directory.resolve root directory) s.fileName

def workspacePath (root : String) : String := Directory.entry root cargoName

/-- What the manifest of the workspace yields to a package that asks it for its version. -/
inductive WorkspaceYields (w : World) (root : String) : Except Fault (Option String) → Prop
  | missing (h : w.isFile (workspacePath root) = false) : WorkspaceYields w root (.ok none)
  | fault {e : Fault} (hfile : w.isFile (workspacePath root))
      (h : Manifest w (workspacePath root) (.error e)) : WorkspaceYields w root (.error e)
  | document {manifest : Value} (hfile : w.isFile (workspacePath root))
      (h : Manifest w (workspacePath root) (.ok manifest)) :
      WorkspaceYields w root
        (.ok ((field? ["workspace", "package", "version"] manifest).bind Value.text?))

/-- What a source yields for the version of a package: a version, nothing, or a fault. -/
inductive Yields (w : World) (root directory : String) :
    Source → Except Fault (Option String) → Prop
  /-- A source that is no file yields nothing. -/
  | missing {s : Source} (h : w.isFile (s.path root directory) = false) :
      Yields w root directory s (.ok none)
  | cargoFault {e : Fault} (hfile : w.isFile (Source.cargo.path root directory))
      (h : Manifest w (Source.cargo.path root directory) (.error e)) :
      Yields w root directory .cargo (.error e)
  | cargoSilent {manifest : Value} (hfile : w.isFile (Source.cargo.path root directory))
      (h : Manifest w (Source.cargo.path root directory) (.ok manifest))
      (hversion : field? ["package", "version"] manifest = none) :
      Yields w root directory .cargo (.ok none)
  | cargoOwn {manifest : Value} {version : String}
      (hfile : w.isFile (Source.cargo.path root directory))
      (h : Manifest w (Source.cargo.path root directory) (.ok manifest))
      (hversion : field? ["package", "version"] manifest = some (.text version)) :
      Yields w root directory .cargo (.ok (some version))
  /-- A version with `workspace = true` is taken from the workspace, with its faults. -/
  | cargoInherited {manifest version : Value} {answer : Except Fault (Option String)}
      (hfile : w.isFile (Source.cargo.path root directory))
      (h : Manifest w (Source.cargo.path root directory) (.ok manifest))
      (hversion : field? ["package", "version"] manifest = some version)
      (hworkspace : version.field? "workspace" = some (.boolean true))
      (hanswer : WorkspaceYields w root answer) : Yields w root directory .cargo answer
  /-- Any other version is a fault of the package's own manifest. -/
  | cargoOdd {manifest version : Value} (hfile : w.isFile (Source.cargo.path root directory))
      (h : Manifest w (Source.cargo.path root directory) (.ok manifest))
      (hversion : field? ["package", "version"] manifest = some version)
      (htext : version.text? = none)
      (hworkspace : version.field? "workspace" ≠ some (.boolean true)) :
      Yields w root directory .cargo
        (.error (.manifest (Source.cargo.path root directory) .oddVersion))
  | pyprojectFault {e : Fault} (hfile : w.isFile (Source.pyproject.path root directory))
      (h : Manifest w (Source.pyproject.path root directory) (.error e)) :
      Yields w root directory .pyproject (.error e)
  /-- A project's own version counts even if it is no text: then there is none. -/
  | pyprojectOwn {manifest version : Value}
      (hfile : w.isFile (Source.pyproject.path root directory))
      (h : Manifest w (Source.pyproject.path root directory) (.ok manifest))
      (hversion : field? ["project", "version"] manifest = some version) :
      Yields w root directory .pyproject (.ok version.text?)
  | pyprojectPoetry {manifest : Value} (hfile : w.isFile (Source.pyproject.path root directory))
      (h : Manifest w (Source.pyproject.path root directory) (.ok manifest))
      (hversion : field? ["project", "version"] manifest = none) :
      Yields w root directory .pyproject
        (.ok ((field? ["tool", "poetry", "version"] manifest).bind Value.text?))
  | packageUnreadable {cause : IoCause} (hfile : w.isFile (Source.package.path root directory))
      (h : w.Unreadable (Source.package.path root directory) cause) :
      Yields w root directory .package (.error (.io cause))
  | packageMalformed {text : String} (hfile : w.isFile (Source.package.path root directory))
      (h : w.readText (Source.package.path root directory) = .ok text)
      (hdocument : Json.parse? text.toList = none) : Yields w root directory .package (.error .json)
  | packageVersion {text : String} {manifest : Json.Value}
      (hfile : w.isFile (Source.package.path root directory))
      (h : w.readText (Source.package.path root directory) = .ok text)
      (hdocument : Json.parse? text.toList = some manifest) :
      Yields w root directory .package
        (.ok ((manifest.field? "version").bind Json.Value.text?))

/-- A source decides: it yields something, and those before it nothing. -/
structure Decides (w : World) (root directory : String) (earlier : List Source) (s : Source)
    (answer : Except Fault (Option String)) : Prop where
  order : ∃ later, Source.all = earlier ++ s :: later
  silent : ∀ b ∈ earlier, Yields w root directory b (.ok none)
  yields : Yields w root directory s answer
  answer_ne : answer ≠ .ok none

/-- The package takes its version from the workspace. -/
def Inherits (w : World) (root directory : String) : Prop :=
  ∃ manifest version, Manifest w (Source.cargo.path root directory) (.ok manifest) ∧
    field? ["package", "version"] manifest = some version ∧
    version.field? "workspace" = some (.boolean true)

/-- The paths that are looked at to find out what a source yields. -/
inductive Consulted (w : World) (root directory : String) : Source → String → Prop
  | own (s : Source) : Consulted w root directory s (s.path root directory)
  | workspace (h : Inherits w root directory) :
      Consulted w root directory .cargo (workspacePath root)

variable {w w' : World} {root directory path : String} {s : Source}
  {answer : Except Fault (Option String)}

/-! ## The relation and the look-up -/

theorem tomlManifest_of_readText {text : String} (h : w.readText path = .ok text) :
    tomlManifest w path = (document? text).elim (.error (.manifest path .notToml)) .ok := by
  rw [tomlManifest, h, document?]
  dsimp only
  cases Toml.parse? text.toList with
  | none => rfl
  | some es =>
      rw [Option.map_some, Option.filter_some]
      dsimp only
      split <;> rfl

theorem manifest_iff (hfile : w.isFile path) {result : Except Fault Value} :
    Manifest w path result ↔ tomlManifest w path = result := by
  constructor
  · intro h
    cases h with
    | unreadable h => rw [tomlManifest, (World.unreadable_iff hfile).mp h]
    | malformed h hdocument => rw [tomlManifest_of_readText h, hdocument, Option.elim_none]
    | document h hdocument => rw [tomlManifest_of_readText h, hdocument, Option.elim_some]
  · rintro rfl
    cases htext : w.readText path with
    | error cause =>
        rw [tomlManifest, htext]
        exact .unreadable ((World.unreadable_iff hfile).mpr htext)
    | ok text =>
        rw [tomlManifest_of_readText htext]
        cases hdocument : document? text with
        | none => exact .malformed htext hdocument
        | some manifest => exact .document htext hdocument

theorem workspaceYields_iff : WorkspaceYields w root answer ↔ workspaceVersion w root = answer := by
  rw [workspaceVersion]
  constructor
  · intro h
    cases h with
    | missing h => exact if_neg (Bool.eq_false_iff.mp h)
    | fault hfile h =>
        refine (if_pos hfile).trans ?_
        rw [← workspacePath, (manifest_iff hfile).mp h]
        rfl
    | document hfile h =>
        refine (if_pos hfile).trans ?_
        rw [← workspacePath, (manifest_iff hfile).mp h]
        rfl
  · rintro rfl
    split
    · rename_i hfile
      cases h : tomlManifest w (Directory.entry root cargoName) with
      | error e => exact .fault hfile ((manifest_iff hfile).mpr h)
      | ok manifest => exact .document hfile ((manifest_iff hfile).mpr h)
    · rename_i hfile
      exact .missing (Bool.eq_false_iff.mpr hfile)

/-- A version that is taken from the workspace is no text. -/
theorem text?_of_workspace {v : Value} (h : v.field? "workspace" = some (.boolean true)) :
    v.text? = none := by
  cases v <;> simp_all [Value.field?, Value.text?]

theorem isInherited_iff {v : Value} :
    isInherited v ↔ v.field? "workspace" = some (.boolean true) := by
  rw [isInherited]
  cases hfield : v.field? "workspace" with
  | none => simp
  | some x => cases x <;> simp [Value.boolean?]

/-- What is done about a version that is no text. -/
theorem cargoVersion_of_not_text {manifest version : Value}
    (h : tomlManifest w path = .ok manifest)
    (hversion : field? ["package", "version"] manifest = some version)
    (htext : version.text? = none) :
    cargoVersion w root path =
      if isInherited version then workspaceVersion w root
      else .error (.manifest path .oddVersion) := by
  rw [cargoVersion, h]
  dsimp only
  rw [hversion]
  cases version <;> first | rfl | simp [Value.text?] at htext

theorem ask_of_not_isFile (h : w.isFile (s.path root directory) = false) :
    s.ask w root directory = .ok none := by
  cases s <;> exact if_neg (Bool.eq_false_iff.mp h)

theorem ask_cargo (h : w.isFile (Source.cargo.path root directory)) :
    Source.cargo.ask w root directory = cargoVersion w root (Source.cargo.path root directory) :=
  if_pos h

theorem ask_pyproject (h : w.isFile (Source.pyproject.path root directory)) :
    Source.pyproject.ask w root directory =
      pyprojectVersion w (Source.pyproject.path root directory) := if_pos h

theorem ask_package (h : w.isFile (Source.package.path root directory)) :
    Source.package.ask w root directory = packageVersion w (Source.package.path root directory) :=
  if_pos h

theorem ask_of_yields (h : Yields w root directory s answer) : s.ask w root directory = answer := by
  cases h with
  | missing h => exact ask_of_not_isFile h
  | cargoFault hfile h => rw [ask_cargo hfile, cargoVersion, (manifest_iff hfile).mp h]
  | cargoSilent hfile h hversion =>
      rw [ask_cargo hfile, cargoVersion, (manifest_iff hfile).mp h]
      simp only [hversion]
  | cargoOwn hfile h hversion =>
      rw [ask_cargo hfile, cargoVersion, (manifest_iff hfile).mp h]
      simp only [hversion]
  | cargoInherited hfile h hversion hworkspace hanswer =>
      rw [ask_cargo hfile, cargoVersion_of_not_text ((manifest_iff hfile).mp h) hversion
        (text?_of_workspace hworkspace), if_pos (isInherited_iff.mpr hworkspace),
        workspaceYields_iff.mp hanswer]
  | cargoOdd hfile h hversion htext hworkspace =>
      rw [ask_cargo hfile, cargoVersion_of_not_text ((manifest_iff hfile).mp h) hversion htext,
        if_neg (mt isInherited_iff.mp hworkspace)]
  | pyprojectFault hfile h =>
      rw [ask_pyproject hfile, pyprojectVersion, (manifest_iff hfile).mp h]
      rfl
  | pyprojectOwn hfile h hversion =>
      rw [ask_pyproject hfile, pyprojectVersion, (manifest_iff hfile).mp h, Except.map, hversion]
      rfl
  | pyprojectPoetry hfile h hversion =>
      rw [ask_pyproject hfile, pyprojectVersion, (manifest_iff hfile).mp h, Except.map, hversion]
      rfl
  | packageUnreadable hfile h =>
      rw [ask_package hfile, packageVersion, (World.unreadable_iff hfile).mp h]
  | packageMalformed hfile h hdocument =>
      rw [ask_package hfile, packageVersion, h]
      simp only [hdocument]
  | packageVersion hfile h hdocument =>
      rw [ask_package hfile, packageVersion, h]
      simp only [hdocument]

theorem yields_cargo (hfile : w.isFile (Source.cargo.path root directory)) :
    Yields w root directory .cargo (cargoVersion w root (Source.cargo.path root directory)) := by
  cases h : tomlManifest w (Source.cargo.path root directory) with
  | error e =>
      rw [cargoVersion, h]
      exact .cargoFault hfile ((manifest_iff hfile).mpr h)
  | ok manifest =>
      cases hversion : field? ["package", "version"] manifest with
      | none =>
          rw [cargoVersion, h]
          simp only [hversion]
          exact .cargoSilent hfile ((manifest_iff hfile).mpr h) hversion
      | some version =>
          cases htext : version.text? with
          | some own =>
              obtain rfl : version = .text own := by
                cases version <;> simp_all [Value.text?]
              rw [cargoVersion, h]
              simp only [hversion]
              exact .cargoOwn hfile ((manifest_iff hfile).mpr h) hversion
          | none =>
              rw [cargoVersion_of_not_text h hversion htext]
              split
              · rename_i hinherited
                exact .cargoInherited hfile ((manifest_iff hfile).mpr h) hversion
                  (isInherited_iff.mp hinherited) (workspaceYields_iff.mpr rfl)
              · rename_i hinherited
                exact .cargoOdd hfile ((manifest_iff hfile).mpr h) hversion htext
                  (mt isInherited_iff.mpr hinherited)

theorem yields_pyproject (hfile : w.isFile (Source.pyproject.path root directory)) :
    Yields w root directory .pyproject
      (pyprojectVersion w (Source.pyproject.path root directory)) := by
  rw [pyprojectVersion]
  cases h : tomlManifest w (Source.pyproject.path root directory) with
  | error e => exact .pyprojectFault hfile ((manifest_iff hfile).mpr h)
  | ok manifest =>
      rw [Except.map]
      cases hversion : field? ["project", "version"] manifest with
      | none => exact .pyprojectPoetry hfile ((manifest_iff hfile).mpr h) hversion
      | some version => exact .pyprojectOwn hfile ((manifest_iff hfile).mpr h) hversion

theorem yields_package (hfile : w.isFile (Source.package.path root directory)) :
    Yields w root directory .package (packageVersion w (Source.package.path root directory)) := by
  rw [packageVersion]
  cases h : w.readText (Source.package.path root directory) with
  | error cause => exact .packageUnreadable hfile ((World.unreadable_iff hfile).mpr h)
  | ok text =>
      dsimp only
      cases hdocument : Json.parse? text.toList with
      | none => exact .packageMalformed hfile h hdocument
      | some manifest => exact .packageVersion hfile h hdocument

/-- The rules yield what the look-up finds in each source, and nothing else. -/
theorem yields_iff : Yields w root directory s answer ↔ s.ask w root directory = answer := by
  constructor
  · exact ask_of_yields
  · rintro rfl
    cases hfile : w.isFile (s.path root directory) with
    | false =>
        rw [ask_of_not_isFile hfile]
        exact .missing hfile
    | true =>
        cases s with
        | cargo => exact ask_cargo hfile ▸ yields_cargo hfile
        | pyproject => exact ask_pyproject hfile ▸ yields_pyproject hfile
        | package => exact ask_package hfile ▸ yields_package hfile

/-! ## The first answer -/

theorem tomlManifest_congr (hfile : w.isFile path) (h : w'.entryAt? path = w.entryAt? path) :
    tomlManifest w' path = tomlManifest w path := by
  rw [tomlManifest, tomlManifest, World.readText_congr hfile h]

theorem workspaceVersion_congr
    (h : w'.entryAt? (workspacePath root) = w.entryAt? (workspacePath root)) :
    workspaceVersion w' root = workspaceVersion w root := by
  rw [workspacePath] at h
  rw [workspaceVersion, workspaceVersion, World.isFile_congr h]
  split
  · rename_i hfile
    rw [tomlManifest_congr hfile h]
  · rfl

theorem cargoVersion_congr (hfile : w.isFile (Source.cargo.path root directory))
    (h : ∀ path, Consulted w root directory .cargo path → w'.entryAt? path = w.entryAt? path) :
    cargoVersion w' root (Source.cargo.path root directory) =
      cargoVersion w root (Source.cargo.path root directory) := by
  have htoml := tomlManifest_congr hfile (h _ (.own .cargo))
  cases hmanifest : tomlManifest w (Source.cargo.path root directory) with
  | error e => rw [cargoVersion, cargoVersion, htoml, hmanifest]
  | ok manifest =>
      by_cases hinherits : Inherits w root directory
      · rw [cargoVersion, cargoVersion, htoml,
          workspaceVersion_congr (h _ (.workspace hinherits))]
      · rw [cargoVersion, cargoVersion, htoml, hmanifest]
        dsimp only
        split
        · rfl
        · rfl
        · rename_i version _ hversion
          have hnot : ¬ isInherited version := by
            intro hinherited
            exact hinherits ⟨manifest, version, (manifest_iff hfile).mpr hmanifest, hversion,
              isInherited_iff.mp hinherited⟩
          rw [if_neg hnot, if_neg hnot]

/-- A source yields the same in every world with the same entries at the paths looked at. -/
theorem ask_congr
    (h : ∀ path, Consulted w root directory s path → w'.entryAt? path = w.entryAt? path) :
    s.ask w' root directory = s.ask w root directory := by
  have hown := h _ (.own s)
  cases hfile : w.isFile (s.path root directory) with
  | false =>
      rw [ask_of_not_isFile hfile, ask_of_not_isFile ((World.isFile_congr hown).trans hfile)]
  | true =>
      have hfile' := (World.isFile_congr hown).trans hfile
      cases s with
      | cargo => rw [ask_cargo hfile, ask_cargo hfile', cargoVersion_congr hfile h]
      | pyproject =>
          rw [ask_pyproject hfile, ask_pyproject hfile', pyprojectVersion, pyprojectVersion,
            tomlManifest_congr hfile hown]
      | package =>
          rw [ask_package hfile, ask_package hfile', packageVersion, packageVersion,
            World.readText_congr hfile hown]

/-! ## The version of a package -/

theorem Decides.congr {earlier : List Source} (h : Decides w root directory earlier s answer)
    (hsame : ∀ b, b ∈ earlier ∨ b = s → ∀ path, Consulted w root directory b path →
      w'.entryAt? path = w.entryAt? path) : Decides w' root directory earlier s answer where
  order := h.order
  silent := fun b hb => yields_iff.mpr
    ((ask_congr (hsame b (.inl hb))).trans (yields_iff.mp (h.silent b hb)))
  yields := yields_iff.mpr ((ask_congr (hsame s (.inr rfl))).trans (yields_iff.mp h.yields))
  answer_ne := h.answer_ne

end PackageSweep.Version
