import PackageSweep.Proofs.Json.RoundTrip
import PackageSweep.Proofs.Version.FirstFault
import PackageSweep.Version.Table

/-!
# Rows of versions

The rows that are collected are those of the packages, one for each, in their order; there are none
when one of them cannot be had. Rows written as JSON can be had back from the text.
-/

namespace PackageSweep.Version

/-! ## Rows as JSON -/

def Row.ofJson? (v : Json.Value) : Option Row := do
  let directory ← (v.field? "directory").bind Json.Value.text?
  let current ← (v.field? "current").bind Json.Value.text?
  let next ← (v.field? "next").bind Json.Value.text?
  some ⟨directory, current, next⟩

def rowsOf? : Json.Value → Option (List Row)
  | .array vs => vs.mapM Row.ofJson?
  | _ => none

/-- The rows in a JSON text. -/
def readRows? (text : String) : Option (List Row) := (Json.parse? text.toList).bind rowsOf?

theorem Row.ofJson?_json (r : Row) : Row.ofJson? r.json = some r := rfl

theorem rowsOf?_map_json (rows : List Row) : rowsOf? (.array (rows.map Row.json)) = some rows := by
  rw [rowsOf?]
  induction rows with
  | nil => rfl
  | cons r rows ih => simp [List.mapM_cons, Row.ofJson?_json, ih]

theorem readable_map_json (depth : Nat) (rows : List Row) :
    Json.Readable (depth + 2) (.array (rows.map Row.json)) := by
  refine .array ?_
  intro v hv
  obtain ⟨r, -, rfl⟩ := List.mem_map.mp hv
  refine .object ?_
  intro m hm
  simp only [List.mem_cons, List.not_mem_nil, or_false] at hm
  rcases hm with rfl | rfl | rfl <;> exact .text depth _

/-- The rows are had back from their JSON text, whatever the texts in them. -/
theorem readRows?_jsonText (rows : List Row) : readRows? (jsonText rows ++ "\n") = some rows := by
  have hparse : Json.parse? ((Json.Value.array (rows.map Row.json)).pretty 0 ++ ['\n']) =
      some (.array (rows.map Row.json)) :=
    Json.parse?_pretty (readable_map_json 125 rows) (by decide)
  have htext : (jsonText rows ++ "\n").toList =
      (Json.Value.array (rows.map Row.json)).pretty 0 ++ ['\n'] := by
    rw [String.toList_append, jsonText, String.toList_ofList]
    rfl
  rw [readRows?, htext, hparse]
  exact rowsOf?_map_json rows

/-! ## Collecting -/

variable {w : World} {root : String} {ds : List String} {rows : List Row}

/-- Collecting leaves rows exactly when each package has one, and then those. -/
theorem collect_eq_ok_iff :
    (collect w root ds).1 = .ok rows ↔ ds.map (row w root) = rows.map .ok := by
  have hrow : HasRow w root = fun d r => row w root d = .ok r := by
    funext d r
    exact propext row_eq_ok_iff.symm
  rw [collect_fst_eq_ok_iff, hrow, ← List.forall₂_eq_eq_eq, List.forall₂_map_left_iff,
    List.forall₂_map_right_iff]

theorem map_directory_of_collect (h : (collect w root ds).1 = .ok rows) :
    rows.map Row.directory = ds := by
  have hrows := collect_fst_eq_ok_iff.mp h
  clear h
  induction hrows with
  | nil => rfl
  | cons hrow _ ih => rw [List.map_cons, hrow.directory_eq, ih]

/-- Collecting does not look at the environment. -/
theorem collect_environment (env : Environment) :
    collect { w with environment := env } root ds = collect w root ds := by
  induction ds with
  | nil => rfl
  | cons d ds ih =>
      have hrow : row { w with environment := env } root d = row w root d := rfl
      rw [collect, collect, hrow, ih]

end PackageSweep.Version
