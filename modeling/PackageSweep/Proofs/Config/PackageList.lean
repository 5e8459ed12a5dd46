import Mathlib.Data.List.Basic
import PackageSweep.Config.Decode
import PackageSweep.Proofs.Config.ListDocument
import PackageSweep.Proofs.Config.Scan
import PackageSweep.Proofs.Result

/-!
# Values in a package list

References in a package list are replaced before the list is read. So a value is one package if it
is clean, and the list is not read at all if some values are not clean but none has a quote or a
backslash. Where one does, it is taken for what it is in a document, and the list that is read, if
there is one, is never the list of the values.
-/

namespace PackageSweep.Config

open Toml (Entries listing textValue)
open Toml.Text (Clean Unescaped)

variable {env : Environment} {ss : List (List Char)} {c : Config}

/-! ## The configuration in the document -/

theorem mapM_text?_eq_some_iff {vs : List Toml.Value} {ps : List String} :
    vs.mapM Toml.Value.text? = some ps ↔ vs = ps.map .text := by
  induction vs generalizing ps with
  | nil => simp [eq_comm]
  | cons v vs ih =>
      have hcons : (v :: vs).mapM Toml.Value.text? = some ps ↔
          ∃ s ts, v.text? = some s ∧ vs.mapM Toml.Value.text? = some ts ∧ s :: ts = ps := by
        rw [List.mapM_cons]
        simp [Option.bind_eq_some_iff]
      rw [hcons]
      constructor
      · rintro ⟨s, ts, hs, hts, rfl⟩
        cases v with
        | text t => rw [ih.mp hts, ← Option.some.inj hs, List.map_cons]
        | _ => simp [Toml.Value.text?] at hs
      · intro h
        obtain ⟨s, ts, rfl, rfl, rfl⟩ := List.map_eq_cons_iff.mp h.symm
        exact ⟨s, ts, rfl, ih.mpr rfl, rfl⟩

theorem map_textValue (ss : List (List Char)) :
    ss.map textValue = (ss.map String.ofList).map Toml.Value.text := by
  rw [List.map_map]
  rfl

theorem texts?_array_iff {vs : List Toml.Value} {ps : List String} :
    texts? (.array vs) = some ps ↔ vs = ps.map .text := mapM_text?_eq_some_iff

theorem optional_eq_ok {α : Type} {read : Toml.Value → Option α} {v : Option Toml.Value} {a : α}
    (h : optional read v = .ok (some a)) : ∃ w, v = some w ∧ read w = some a := by
  cases v with
  | none => simp [optional] at h
  | some w =>
      rw [optional] at h
      split at h
      · rename_i a' hread
        exact ⟨w, rfl, by rw [hread, Option.some.inj (Except.ok.inj h)]⟩
      · simp at h

theorem packages_of_ofFields {packages windowsOnly manifest commands : Option Toml.Value}
    (h : ofFields packages windowsOnly manifest commands = .ok c) :
    ∃ v, packages = some v ∧ texts? v = some c.packages := by
  cases hpackages : optional texts? packages with
  | error e => simp [ofFields, hpackages, bind, Except.bind] at h
  | ok found =>
      simp only [ofFields, hpackages, bind, Except.bind] at h
      split at h
      · contradiction
      split at h
      · contradiction
      split at h
      · contradiction
      split at h
      · rename_i ps
        rw [← Except.ok.inj h]
        exact optional_eq_ok hpackages
      · contradiction

theorem ofFields_packages {v : Toml.Value} {ps : List String} (h : texts? v = some ps) :
    ofFields (some v) none none none = .ok { packages := ps } := by
  simp [ofFields, optional, h, bind, Except.bind]

theorem ofDocument_of_parse? {s : List Char} {es : Entries} {v : Toml.Value}
    (hparse : Toml.parse? s = some es) (hlookup : es.lookup "workspace" = some v) :
    ofDocument (String.ofList s) = ofWorkspace v := by
  simp only [ofDocument, String.toList_ofList, hparse, hlookup]

theorem ofDocument_of_parse?_eq_none {s : List Char} (hparse : Toml.parse? s = none) :
    ofDocument (String.ofList s) = .error .notToml := by
  simp only [ofDocument, String.toList_ofList, hparse]

theorem ofDocument_listed_of_clean (hss : ∀ s ∈ ss, Clean s) :
    ofDocument (String.ofList (listed ss)) = .ok { packages := ss.map String.ofList } := by
  rw [ofDocument_of_parse? (parse?_listed_of_clean hss) List.lookup_cons_self]
  have hlist : texts? (.array (ss.map textValue)) = some (ss.map String.ofList) :=
    texts?_array_iff.mpr (map_textValue ss)
  rw [ofWorkspace, List.lookup_cons_self]
  exact ofFields_packages hlist

theorem ofDocument_listed_of_not_clean (hss : ∀ s ∈ ss, Unescaped s) (hnot : ¬ ∀ s ∈ ss, Clean s) :
    ofDocument (String.ofList (listed ss)) = .error .notToml :=
  ofDocument_of_parse?_eq_none (parse?_listed_eq_none hss hnot)

theorem clean_of_ofDocument_listed (h : ofDocument (String.ofList (listed ss)) = .ok c)
    (hpackages : c.packages = ss.map String.ofList) : ∀ s ∈ ss, Clean s := by
  cases hparse : Toml.parse? (listed ss) with
  | none => simp [ofDocument_of_parse?_eq_none hparse] at h
  | some es =>
      obtain ⟨vs, harray, hclean⟩ := exists_arrayAt?_listed hparse
      obtain ⟨o, fs, hworkspace, hlist⟩ := Toml.Table.arrayAt?_cons_iff.mp harray
      rw [ofDocument_of_parse? hparse hworkspace, ofWorkspace,
        Toml.Table.arrayAt?_nil_iff.mp hlist] at h
      obtain ⟨v, hv, htexts⟩ := packages_of_ofFields h
      obtain rfl := Option.some.inj hv
      rw [texts?_array_iff, hpackages, ← map_textValue] at htexts
      exact hclean htexts

/-! ## References in the list -/

/-- An entry of a package list as it stands between its quotes: a clean text without references, or
a reference to a variable that is set to a text. -/
inductive Entry (env : Environment) where
  | literal (text : List Char) (hclean : Clean text) (hdollar : '$' ∉ text)
  | reference (name : List Char) (value : String) (hname : IsReferenceName name)
      (hvalue : env.text? (String.ofList name) = some value)

namespace Entry

def written : Entry env → List Char
  | .literal text _ _ => text
  | .reference name _ _ _ => braced name

/-- The text itself, or the value of the variable. -/
def value : Entry env → List Char
  | .literal text _ _ => text
  | .reference _ value _ _ => value.toList

/-- The document that lists these entries as packages. -/
def document (es : List (Entry env)) : String := String.ofList (listed (es.map written))

def packages (es : List (Entry env)) : List String := es.map fun e => String.ofList e.value

end Entry

theorem expandFrom_of_ne {ch : Char} (h : ch ≠ '$') (cs : List Char) :
    expandFrom env .plain (ch :: cs) = ch :: expandFrom env .plain cs :=
  expandFrom_cons (not_beginsReference_of_ne h)

theorem expandFrom_append {x : List Char} (hx : '$' ∉ x) (cs : List Char) :
    expandFrom env .plain (x ++ cs) = x ++ expandFrom env .plain cs := by
  induction x with
  | nil => rfl
  | cons a x ih =>
      rw [List.mem_cons, not_or] at hx
      rw [List.cons_append, expandFrom_of_ne (Ne.symm hx.1), ih hx.2, List.cons_append]

theorem Entry.expandFrom_written (e : Entry env) (cs : List Char) :
    expandFrom env .plain (e.written ++ cs) = e.value ++ expandFrom env .plain cs := by
  cases e with
  | literal text hclean hdollar => exact expandFrom_append hdollar cs
  | reference name value hname hvalue =>
      rw [written, expandFrom_braced hname, Config.reference, hvalue]
      rfl

theorem expandFrom_listing (es : List (Entry env)) (cs : List Char) :
    expandFrom env .plain (listing (es.map Entry.written) ++ cs) =
      listing (es.map Entry.value) ++ expandFrom env .plain cs := by
  induction es with
  | nil => rfl
  | cons e es ih =>
      cases es with
      | nil =>
          rw [List.map_singleton, List.map_singleton, Toml.listing_singleton_append,
            Toml.listing_singleton_append, expandFrom_of_ne (by decide), e.expandFrom_written,
            expandFrom_of_ne (by decide)]
      | cons e' es =>
          rw [List.map_cons, List.map_cons, Toml.listing_cons_cons_append, List.map_cons,
            List.map_cons, Toml.listing_cons_cons_append, expandFrom_of_ne (by decide),
            e.expandFrom_written, expandFrom_of_ne (by decide), expandFrom_of_ne (by decide),
            expandFrom_of_ne (by decide), ← List.map_cons, ih, List.map_cons]

theorem expand_document (es : List (Entry env)) :
    expand env (Entry.document es) = String.ofList (listed (es.map Entry.value)) := by
  have htext : expandFrom env .plain (listed (es.map Entry.written)) =
      listed (es.map Entry.value) := by
    unfold listed
    rw [expandFrom_append (by decide), expandFrom_append (by decide), expandFrom_of_ne (by decide),
      expandFrom_listing, expandFrom_of_ne (by decide), expandFrom_of_ne (by decide)]
    rfl
  rw [expand, Entry.document, String.toList_ofList, htext]

/-- A package list is read as its values exactly if all of them are clean. If none has a quote or a
backslash but some are not clean, nothing is read. -/
theorem listed_values (es : List (Entry env)) :
    ((∀ e ∈ es, Clean e.value) →
      ofText env (Entry.document es) = .ok { packages := Entry.packages es }) ∧
    ((∀ e ∈ es, Unescaped e.value) → (¬ ∀ e ∈ es, Clean e.value) →
      ofText env (Entry.document es) = .error (.config .notToml)) ∧
    ∀ c, ofText env (Entry.document es) = .ok c → c.packages = Entry.packages es →
      ∀ e ∈ es, Clean e.value := by
  have hpackages : (es.map Entry.value).map String.ofList = Entry.packages es := List.map_map
  refine ⟨fun hclean => ?_, fun hunescaped hnot => ?_, fun c hc hvalues => ?_⟩
  · rw [ofText, expand_document, ofDocument_listed_of_clean (by simpa using hclean), hpackages]
    rfl
  · rw [ofText, expand_document,
      ofDocument_listed_of_not_clean (by simpa using hunescaped) (by simpa using hnot)]
    rfl
  · rw [ofText, expand_document, Result.mapError_eq_ok_iff] at hc
    simpa using clean_of_ofDocument_listed hc (hvalues.trans hpackages.symm)

/-- One value with brackets, a comma and what looks like a reference, and one with a line break. -/
def settled : Environment :=
  ⟨[("A", Utf8.ofString "bin, [$\x7bB\x7d]"), ("B", Utf8.ofString "a\nb")]⟩

def settledClean : List (Entry settled) :=
  [.literal ['c', 'o', 'r', 'e'] (by decide) (by decide),
    .reference ['A'] "bin, [$\x7bB\x7d]" ⟨by decide, by decide⟩ (by decide +kernel)]

def settledBroken : List (Entry settled) :=
  [.reference ['B'] "a\nb" ⟨by decide, by decide⟩ (by decide +kernel)]

theorem settled_values :
    ofText settled (Entry.document settledClean) =
        .ok { packages := ["core", "bin, [$\x7bB\x7d]"] } ∧
      ofText settled (Entry.document settledBroken) = .error (.config .notToml) ∧
      ∀ e ∈ settledClean, Clean e.value := by
  obtain ⟨hclean, -, hexact⟩ := listed_values settledClean
  obtain ⟨-, hbroken, -⟩ := listed_values settledBroken
  have hread := hclean (by decide +kernel)
  refine ⟨?_, hbroken (by decide +kernel) (by decide +kernel), hexact _ hread rfl⟩
  rw [hread]
  decide +kernel

/-- A value with quotes and one with a backslash. -/
def splicing : Environment :=
  ⟨[("A", Utf8.ofString "a\", \"b"), ("B", Utf8.ofString "\\u0061")]⟩

def spliced : List (Entry splicing) :=
  [.reference ['A'] "a\", \"b" ⟨by decide, by decide⟩ (by decide +kernel)]

def escaped : List (Entry splicing) :=
  [.reference ['B'] "\\u0061" ⟨by decide, by decide⟩ (by decide +kernel)]

/-- A value can add a package or come out as another one, and nothing fails. -/
theorem spliced_values :
    Entry.document spliced = "[workspace]\npackages = [\"$\x7bA\x7d\"]\n" ∧
      Entry.packages spliced = ["a\", \"b"] ∧
      ofText splicing (Entry.document spliced) = .ok { packages := ["a", "b"] } ∧
      Entry.packages escaped = ["\\u0061"] ∧
      ofText splicing (Entry.document escaped) = .ok { packages := ["a"] } := by
  refine ⟨by decide +kernel, by decide +kernel, by decide +kernel, by decide +kernel,
    by decide +kernel⟩

end PackageSweep.Config
