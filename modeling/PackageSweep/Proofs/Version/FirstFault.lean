import Mathlib.Data.List.Forall2
import PackageSweep.Proofs.Version.NextPatch
import PackageSweep.Version.Collect

/-!
# The first package without a row

A package has a row when its version can be read and raised. Collecting takes the rows of a list
from the first package on, one event for each, and stops at the first package without a row: that
package alone decides the fault, and what comes after it is not looked at.
-/

namespace PackageSweep.Version

/-- The row of a package: its directory as written, its version as read, and that version raised. -/
structure HasRow (w : World) (root directory : String) (r : Row) : Prop where
  directory_eq : r.directory = directory
  read_eq : read w root directory = .ok r.current
  next_eq : next r.current = .ok r.next

/-- The ways to be without a row, each with its fault. -/
inductive HasNoRow (w : World) (root directory : String) : Fault → Prop where
  | unread {fault : Fault} (hread : read w root directory = .error fault) :
      HasNoRow w root directory fault
  | unraised {current : String} (hread : read w root directory = .ok current)
      (hnext : ¬ ∃ raised, next current = .ok raised) :
      HasNoRow w root directory (.invalidVersion current)

/-- What is said of rows, one event for each. -/
def rowEvents (rows : List Row) : Trace := rows.map fun r => .event (.version r)

variable {w : World} {root d : String} {ds xs : List String} {rows : List Row} {fault : Fault}

theorem fault_of_next {version : String} (h : next version = .error fault) :
    fault = .invalidVersion version := by
  cases hraised : next? version.toList with
  | some raised => simp [next_of_some hraised] at h
  | none =>
      rw [next_of_none hraised] at h
      exact (Except.error.inj h).symm

theorem row_eq_ok_iff {r : Row} : row w root d = .ok r ↔ HasRow w root d r := by
  constructor
  · intro h
    rw [row] at h
    split at h
    · simp at h
    · rename_i current hread
      split at h
      · simp at h
      · rename_i raised hnext
        obtain rfl := Except.ok.inj h
        exact ⟨rfl, hread, hnext⟩
  · rintro ⟨rfl, hread, hnext⟩
    simp [row, hread, hnext]

theorem row_eq_error_iff : row w root d = .error fault ↔ HasNoRow w root d fault := by
  constructor
  · intro h
    rw [row] at h
    split at h
    · rename_i e hread
      obtain rfl := Except.error.inj h
      exact .unread hread
    · rename_i current hread
      split at h
      · rename_i e hnext
        obtain rfl := Except.error.inj h
        obtain rfl := fault_of_next hnext
        exact .unraised hread (by simp [hnext])
      · simp at h
  · intro h
    cases h with
    | unread hread => simp [row, hread]
    | @unraised current hread hnext =>
        cases hraised : next current with
        | ok raised => exact absurd ⟨raised, hraised⟩ hnext
        | error e =>
            obtain rfl := fault_of_next hraised
            simp [row, hread, hraised]

theorem exists_hasRow_iff :
    (∃ r, HasRow w root d r) ↔
      ∃ current raised, read w root d = .ok current ∧ next current = .ok raised := by
  constructor
  · rintro ⟨r, -, hread, hnext⟩
    exact ⟨r.current, r.next, hread, hnext⟩
  · rintro ⟨current, raised, hread, hnext⟩
    exact ⟨⟨d, current, raised⟩, rfl, hread, hnext⟩

theorem exists_rows_iff :
    (∃ rows, List.Forall₂ (HasRow w root) ds rows) ↔ ∀ d ∈ ds, ∃ r, HasRow w root d r := by
  constructor
  · rintro ⟨rows, hrows⟩ d hd
    induction hrows with
    | nil => simp at hd
    | @cons e r es rows hrow _ ih =>
        rcases List.mem_cons.mp hd with rfl | hd
        · exact ⟨r, hrow⟩
        · exact ih hd
  · intro h
    induction ds with
    | nil => exact ⟨[], .nil⟩
    | cons d ds ih =>
        obtain ⟨⟨r, hrow⟩, hds⟩ := List.forall_mem_cons.mp h
        obtain ⟨rows, hrows⟩ := ih hds
        exact ⟨r :: rows, .cons hrow hrows⟩

/-- After packages with rows, collecting goes on as if it began there. -/
theorem collect_append (h : List.Forall₂ (HasRow w root) xs rows) (ds : List String) :
    collect w root (xs ++ ds) =
      ((collect w root ds).1.map (rows ++ ·), rowEvents rows ++ (collect w root ds).2) := by
  induction h with
  | nil =>
      -- Putting no rows in front changes nothing, but only once the result is known.
      rw [List.nil_append]
      cases hds : collect w root ds with
      | mk result trace => cases result <;> rfl
  | @cons d r xs rows hrow _ ih =>
      rw [List.cons_append, collect, row_eq_ok_iff.mpr hrow]
      simp only [ih]
      cases (collect w root ds).1 <;> rfl

theorem collect_cons_of_hasNoRow (h : HasNoRow w root d fault) (ds : List String) :
    collect w root (d :: ds) = (.error fault, []) := by
  rw [collect, row_eq_error_iff.mpr h]

theorem collect_of_rows (h : List.Forall₂ (HasRow w root) ds rows) :
    collect w root ds = (.ok rows, rowEvents rows) := by
  have happend := collect_append h []
  rw [List.append_nil] at happend
  rw [happend]
  simp [collect, Except.map]

theorem collect_of_first (h : List.Forall₂ (HasRow w root) xs rows) (hd : HasNoRow w root d fault)
    (ds : List String) : collect w root (xs ++ d :: ds) = (.error fault, rowEvents rows) := by
  rw [collect_append h, collect_cons_of_hasNoRow hd]
  simp [Except.map]

/-- Either all packages of a list have rows, or there is a first one without. -/
theorem exists_rows_or_first (w : World) (root : String) (ds : List String) :
    (∃ rows, List.Forall₂ (HasRow w root) ds rows) ∨
      ∃ before d later rows fault, ds = before ++ d :: later ∧
        List.Forall₂ (HasRow w root) before rows ∧ HasNoRow w root d fault := by
  induction ds with
  | nil => exact .inl ⟨[], .nil⟩
  | cons d ds ih =>
      cases hd : row w root d with
      | error fault =>
          exact .inr ⟨[], d, ds, [], fault, rfl, .nil, row_eq_error_iff.mp hd⟩
      | ok r =>
          have hrow : HasRow w root d r := row_eq_ok_iff.mp hd
          rcases ih with ⟨rows, hrows⟩ | ⟨before, e, later, rows, fault, rfl, hrows, hfault⟩
          · exact .inl ⟨r :: rows, .cons hrow hrows⟩
          · exact .inr ⟨d :: before, e, later, r :: rows, fault, rfl, .cons hrow hrows, hfault⟩

theorem collect_fst_eq_ok_iff :
    (collect w root ds).1 = .ok rows ↔ List.Forall₂ (HasRow w root) ds rows := by
  constructor
  · intro h
    rcases exists_rows_or_first w root ds with
      ⟨all, hall⟩ | ⟨before, d, later, made, fault, rfl, hmade, hd⟩
    · rw [collect_of_rows hall] at h
      obtain rfl := Except.ok.inj h
      exact hall
    · rw [collect_of_first hmade hd] at h
      simp at h
  · intro h
    rw [collect_of_rows h]

theorem exists_rowEvents (w : World) (root : String) (ds : List String) :
    ∃ rows, (collect w root ds).2 = rowEvents rows := by
  rcases exists_rows_or_first w root ds with
    ⟨rows, hrows⟩ | ⟨before, d, later, rows, fault, rfl, hrows, hd⟩
  · exact ⟨rows, by rw [collect_of_rows hrows]⟩
  · exact ⟨rows, by rw [collect_of_first hrows hd]⟩

theorem level_rowEvents {e : Event} (h : e ∈ Trace.events (rowEvents rows)) : e.level = .debug := by
  obtain ⟨signal, hsignal, he⟩ := List.mem_filterMap.mp h
  obtain ⟨r, -, rfl⟩ := List.mem_map.mp hsignal
  obtain rfl := Option.some.inj he
  rfl

/-- Collecting leaves rows exactly when every package has one, and otherwise the fault of the first
package without. Whatever comes after that package, the result is as if it stood alone, and the log
has one event for each package before it and none from there on. -/
theorem first_fault_decides (w : World) (root : String) (ds : List String) :
    ((∃ rows, (collect w root ds).1 = .ok rows) ↔
        ∀ d ∈ ds, ∃ current raised, read w root d = .ok current ∧ next current = .ok raised) ∧
      (∀ rows, (collect w root ds).1 = .ok rows →
        List.Forall₂ (HasRow w root) ds rows ∧ (collect w root ds).2 = rowEvents rows) ∧
      (∀ fault, (collect w root ds).1 = .error fault →
        ∃ before d later, ds = before ++ d :: later ∧ (∀ b ∈ before, ∃ r, HasRow w root b r) ∧
          HasNoRow w root d fault) ∧
      (∀ before d later fault, ds = before ++ d :: later →
        (∀ b ∈ before, ∃ r, HasRow w root b r) → HasNoRow w root d fault →
        (collect w root ds).1 = .error fault ∧ collect w root [d] = (.error fault, []) ∧
          ∃ rows, List.Forall₂ (HasRow w root) before rows ∧
            (collect w root ds).2 = rowEvents rows) ∧
      ∀ e ∈ (collect w root ds).2.events, e.level = .debug := by
  refine ⟨?_, ?_, ?_, ?_, ?_⟩
  · simp only [collect_fst_eq_ok_iff, exists_rows_iff, exists_hasRow_iff]
  · intro rows h
    have hrows := collect_fst_eq_ok_iff.mp h
    refine ⟨hrows, ?_⟩
    rw [collect_of_rows hrows]
  · intro fault h
    rcases exists_rows_or_first w root ds with
      ⟨rows, hrows⟩ | ⟨before, d, later, rows, fault', rfl, hrows, hd⟩
    · rw [collect_of_rows hrows] at h
      simp at h
    · rw [collect_of_first hrows hd] at h
      obtain rfl := Except.error.inj h
      exact ⟨before, d, later, rfl, exists_rows_iff.mp ⟨rows, hrows⟩, hd⟩
  · rintro before d later fault rfl hbefore hd
    obtain ⟨rows, hrows⟩ := exists_rows_iff.mpr hbefore
    rw [collect_of_first hrows hd]
    exact ⟨rfl, collect_cons_of_hasNoRow hd [], rows, hrows, rfl⟩
  · intro e he
    obtain ⟨rows, htrace⟩ := exists_rowEvents w root ds
    rw [htrace] at he
    exact level_rowEvents he

/-- A workspace where the version of the second package cannot be raised and the third package has
none. -/
def halting : World where
  tree := ⟨[(["a"], .directory),
    (["a", "package.json"], .file (Utf8.ofString "\x7b\"version\": \" 1.9\"\x7d")),
    (["b"], .directory),
    (["b", "package.json"], .file (Utf8.ofString "\x7b\"version\": \"0.1-rc \"\x7d"))]⟩
  here := []
  environment := .empty

theorem halting_first_fault :
    HasRow halting "." "a" ⟨"a", " 1.9", "1.10"⟩ ∧
      HasNoRow halting "." "b" (.invalidVersion "0.1-rc ") ∧
      (collect halting "." ["a", "b", "c"]).1 = .error (.invalidVersion "0.1-rc ") ∧
      ∃ rows, List.Forall₂ (HasRow halting ".") ["a"] rows ∧
        (collect halting "." ["a", "b", "c"]).2 = rowEvents rows := by
  have ha : HasRow halting "." "a" ⟨"a", " 1.9", "1.10"⟩ :=
    ⟨rfl, by decide +kernel, by decide +kernel⟩
  have hb : HasNoRow halting "." "b" (.invalidVersion "0.1-rc ") :=
    row_eq_error_iff.mp (by decide +kernel)
  have hbefore : ∀ b ∈ ["a"], ∃ r, HasRow halting "." b r := by
    intro b hmem
    obtain rfl := List.mem_singleton.mp hmem
    exact ⟨_, ha⟩
  obtain ⟨-, -, -, hfirst, -⟩ := first_fault_decides halting "." ["a", "b", "c"]
  obtain ⟨hresult, -, hlog⟩ := hfirst ["a"] "b" ["c"] _ rfl hbefore hb
  exact ⟨ha, hb, hresult, hlog⟩

end PackageSweep.Version
