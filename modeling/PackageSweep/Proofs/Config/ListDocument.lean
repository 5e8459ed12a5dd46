import PackageSweep.Proofs.Toml.Kept
import PackageSweep.Proofs.Toml.StringArray

/-!
# A document with a package list

What the reader of documents makes of a list of packages. The list is read as these texts if they
are clean. The document is refused if some are not clean but none has a quote or a backslash. And in
whatever is read of it there is a list of packages, which is that of these texts only if they are
clean: what stands in the document after the list does not change the list.
-/

namespace PackageSweep

namespace Toml

theorem statements_succ {cs : List Char} (hne : cs ≠ [])
    (hskip : skipLines? false cs = some cs) (fuel : Nat) :
    statements (fuel + 1) cs = (statement? fuel cs).bind fun p =>
      (statements fuel p.2).map (p.1 :: ·) := by
  obtain ⟨a, cs, rfl⟩ := List.exists_cons_of_ne_nil hne
  rw [statements, hskip]
  cases h : statement? fuel (a :: cs) with
  | none => simp only [h]; rfl
  | some p => simp only [h]; rfl

theorem parse?_eq_bind (cs : List Char) : parse? cs =
    (statements (2 * (withoutMark cs).length + 2) (withoutMark cs)).bind fun ss =>
      (ss.foldlM Draft.take ⟨[], []⟩).map Draft.entries := by
  rw [parse?]
  cases statements (2 * (withoutMark cs).length + 2) (withoutMark cs) with
  | none => rfl
  | some ss => exact Option.map_eq_bind.symm

end Toml

namespace Config

open Toml (Statement Draft Entries listing textValue)
open Toml.Text (Clean Unescaped)

variable {ss : List (List Char)}

/-- The document that lists these texts as packages and has nothing else. -/
def listed (ss : List (List Char)) : List Char :=
  "[workspace]\n".toList ++ ("packages = ".toList ++ '[' :: (listing ss ++ [']', '\n']))

theorem statement?_workspace (fuel : Nat) (cs : List Char) :
    Toml.statement? fuel ("[workspace]\n".toList ++ cs) = some (.header [] "workspace", cs) := rfl

theorem key?_packages (cs : List Char) :
    Toml.key? ("packages = ".toList ++ cs) = some ([], "packages", '=' :: ' ' :: cs) := rfl

theorem statement?_packages (fuel : Nat) (cs : List Char) :
    Toml.statement? (fuel + 1) ("packages = ".toList ++ '[' :: cs) =
      (Toml.items fuel 79 cs).bind fun p =>
        (Toml.lineEnd? p.2).map (Statement.pair [] "packages" (.array p.1), ·) := by
  have hvalue : Toml.value (fuel + 1) Toml.maxDepth ('[' :: cs) =
      (Toml.items fuel 79 cs).map fun p => (.array p.1, p.2) := by
    rw [Toml.maxDepth, Toml.value]
  have hspace : Toml.skipSpace (' ' :: '[' :: cs) = '[' :: cs := rfl
  have hhead : "packages = ".toList ++ '[' :: cs = 'p' :: ("ackages = ".toList ++ '[' :: cs) := rfl
  have hbracket : ∀ r, "packages = ".toList ++ '[' :: cs ≠ '[' :: r := by
    intro r htext
    rw [hhead] at htext
    exact absurd (List.cons.inj htext).1 (by decide)
  rw [Toml.statement?, key?_packages]
  · simp only [hspace, hvalue]
    cases Toml.items fuel 79 cs with
    | none => rfl
    | some p => rfl
  · exact fun r => hbracket _
  · exact hbracket

/-- The entries of a document that are there once its package list is read. -/
def entriesOf (vs : List Toml.Value) : Entries :=
  [("workspace", .table .header [("packages", .array vs)])]

theorem arrayAt?_entriesOf (vs : List Toml.Value) :
    Toml.Table.arrayAt? ["workspace"] "packages" (entriesOf vs) = some vs := by
  rw [Toml.Table.arrayAt?_cons_iff]
  refine ⟨.header, [("packages", .array vs)], List.lookup_cons_self, ?_⟩
  rw [Toml.Table.arrayAt?_nil_iff]
  exact List.lookup_cons_self

theorem take_header : Draft.take ⟨[], []⟩ (.header [] "workspace") =
    some ⟨[("workspace", .table .header [])], ["workspace"]⟩ := by
  rfl

theorem take_packages (vs : List Toml.Value) :
    Draft.take ⟨[("workspace", .table .header [])], ["workspace"]⟩
      (.pair [] "packages" (.array vs)) = some ⟨entriesOf vs, ["workspace"]⟩ := by
  rfl

theorem skipLines?_workspace (cs : List Char) :
    Toml.skipLines? false ("[workspace]\n".toList ++ cs) = some ("[workspace]\n".toList ++ cs) := by
  have hhead : "[workspace]\n".toList ++ cs = '[' :: ("workspace]\n".toList ++ cs) := rfl
  rw [hhead]
  rfl

theorem skipLines?_packages (cs : List Char) :
    Toml.skipLines? false ("packages = ".toList ++ cs) = some ("packages = ".toList ++ cs) := by
  have hhead : "packages = ".toList ++ cs = 'p' :: ("ackages = ".toList ++ cs) := rfl
  rw [hhead]
  rfl

theorem statements_listed (fuel : Nat) (ss : List (List Char)) :
    Toml.statements (fuel + 3) (listed ss) =
      (Toml.items fuel 79 (listing ss ++ [']', '\n'])).bind fun p =>
        (Toml.lineEnd? p.2).bind fun rest => (Toml.statements (fuel + 1) rest).map fun more =>
          .header [] "workspace" :: .pair [] "packages" (.array p.1) :: more := by
  unfold listed
  rw [Toml.statements_succ (by simp) (skipLines?_workspace _), statement?_workspace,
    Option.bind_some, Toml.statements_succ (by simp) (skipLines?_packages _), statement?_packages]
  cases Toml.items fuel 79 (listing ss ++ [']', '\n']) with
  | none => rfl
  | some p =>
      rw [Option.bind_some, Option.bind_some]
      cases Toml.lineEnd? p.2 with
      | none => rfl
      | some rest =>
          rw [Option.map_some, Option.bind_some, Option.bind_some, Option.map_map]
          rfl

/-- The document is read if its package list is, and then the rest of what is left. -/
theorem exists_parse?_listed (ss : List (List Char)) :
    ∃ fuel, ss.length < fuel ∧ Toml.parse? (listed ss) =
      (Toml.items fuel 79 (listing ss ++ [']', '\n'])).bind fun p =>
        (Toml.lineEnd? p.2).bind fun rest => (Toml.statements (fuel + 1) rest).bind fun more =>
          (more.foldlM Draft.take ⟨entriesOf p.1, ["workspace"]⟩).map Draft.entries := by
  have hlength : ss.length + 3 ≤ (listed ss).length := by
    have hle := Toml.length_le_length_listing ss
    unfold listed
    simp only [List.length_append, List.length_cons]
    omega
  obtain ⟨fuel, hfuel, hle⟩ : ∃ fuel, 2 * (listed ss).length + 2 = fuel + 3 ∧ ss.length < fuel :=
    ⟨2 * (listed ss).length - 1, by omega, by omega⟩
  refine ⟨fuel, hle, ?_⟩
  have hmark : Toml.withoutMark (listed ss) = listed ss := rfl
  rw [Toml.parse?_eq_bind, hmark, hfuel, statements_listed]
  cases Toml.items fuel 79 (listing ss ++ [']', '\n']) with
  | none => rfl
  | some p =>
      rw [Option.bind_some, Option.bind_some]
      cases Toml.lineEnd? p.2 with
      | none => rfl
      | some rest =>
          rw [Option.bind_some, Option.bind_some]
          cases Toml.statements (fuel + 1) rest with
          | none => rfl
          | some more =>
              rw [Option.map_some, Option.bind_some, Option.bind_some, List.foldlM_cons,
                take_header, Option.bind_eq_bind, Option.bind_some, List.foldlM_cons,
                take_packages, Option.bind_eq_bind, Option.bind_some]

theorem parse?_listed_of_clean (hss : ∀ s ∈ ss, Clean s) :
    Toml.parse? (listed ss) = some (entriesOf (ss.map textValue)) := by
  obtain ⟨fuel, hfuel, hparse⟩ := exists_parse?_listed ss
  rw [hparse, Toml.items_listing_of_clean hss hfuel]
  rfl

theorem parse?_listed_eq_none (hss : ∀ s ∈ ss, Unescaped s) (hnot : ¬ ∀ s ∈ ss, Clean s) :
    Toml.parse? (listed ss) = none := by
  obtain ⟨fuel, hfuel, hparse⟩ := exists_parse?_listed ss
  rw [hparse, Toml.items_listing_eq_none hss hnot hfuel]
  rfl

/-- A text may close the list and begin more statements, but they cannot replace it. -/
theorem exists_arrayAt?_listed {es : Entries} (h : Toml.parse? (listed ss) = some es) :
    ∃ vs, Toml.Table.arrayAt? ["workspace"] "packages" es = some vs ∧
      (vs = ss.map textValue → ∀ s ∈ ss, Clean s) := by
  obtain ⟨fuel, hfuel, hparse⟩ := exists_parse?_listed ss
  rw [hparse] at h
  obtain ⟨⟨vs, rest⟩, hitems, h⟩ := Option.bind_eq_some_iff.mp h
  obtain ⟨rest', -, h⟩ := Option.bind_eq_some_iff.mp h
  obtain ⟨more, -, h⟩ := Option.bind_eq_some_iff.mp h
  obtain ⟨d, hmore, rfl⟩ := Option.map_eq_some_iff.mp h
  refine ⟨vs, Toml.keeps_foldlM_take hmore _ _ vs (arrayAt?_entriesOf vs), ?_⟩
  rintro rfl
  exact Toml.clean_of_items_listing hfuel hitems

end Config

end PackageSweep
