import PackageSweep.Toml.Reader

/-!
# What a document has once, it keeps

A key is given a value once. Later statements add to tables and never replace an array, so an array
between brackets is there to the end of the document, under the same keys.
-/

namespace PackageSweep.Toml

namespace Table

variable {byDots : Bool} {edit : Edit} {path : Path} {key name : String} {v w : Value}
  {vs : List Value} {o o' : Origin} {es es' fs fs' : Entries}

/-- The items of the array under these keys, each but the last the key of a table. -/
def arrayAt? : Path → String → Entries → Option (List Value)
  | [], key, es =>
    match es.lookup key with
    | some (.array vs) => some vs
    | _ => none
  | name :: path, key, es =>
    match es.lookup name with
    | some (.table _ fs) => arrayAt? path key fs
    | _ => none

/-- Every array of the first table is in the second one too. -/
def Keeps (es es' : Entries) : Prop :=
  ∀ path key vs, arrayAt? path key es = some vs → arrayAt? path key es' = some vs

theorem Keeps.refl (es : Entries) : Keeps es es := fun _ _ _ h => h

theorem arrayAt?_nil_iff : arrayAt? [] key es = some vs ↔ es.lookup key = some (.array vs) := by
  rw [arrayAt?]
  split
  · rename_i vs' hlookup
    simp [hlookup]
  · rename_i hnot
    refine iff_of_false (by simp) fun hlookup => ?_
    exact hnot vs hlookup

theorem arrayAt?_cons_iff : arrayAt? (name :: path) key es = some vs ↔
    ∃ o fs, es.lookup name = some (.table o fs) ∧ arrayAt? path key fs = some vs := by
  rw [arrayAt?]
  split
  · rename_i o fs hlookup
    constructor
    · exact fun h => ⟨o, fs, hlookup, h⟩
    · rintro ⟨o', fs', hlookup', h⟩
      rw [hlookup] at hlookup'
      obtain ⟨-, rfl⟩ := Value.table.inj (Option.some.inj hlookup')
      exact h
  · rename_i hnot
    refine iff_of_false (by simp) ?_
    rintro ⟨o, fs, hlookup, -⟩
    exact hnot o fs hlookup

/-- What matters of a change to a table is what it does to the entries under single keys. -/
theorem keeps_of_lookup
    (harray : ∀ key vs, es.lookup key = some (.array vs) → es'.lookup key = some (.array vs))
    (htable : ∀ key o fs, es.lookup key = some (.table o fs) →
      ∃ o' fs', es'.lookup key = some (.table o' fs') ∧ Keeps fs fs') : Keeps es es' := by
  intro path key vs h
  cases path with
  | nil =>
      rw [arrayAt?_nil_iff] at h ⊢
      exact harray key vs h
  | cons name path =>
      obtain ⟨o, fs, hlookup, hfs⟩ := arrayAt?_cons_iff.mp h
      obtain ⟨o', fs', hlookup', hkeeps⟩ := htable name o fs hlookup
      exact arrayAt?_cons_iff.mpr ⟨o', fs', hlookup', hkeeps path key vs hfs⟩

theorem keeps_append (es more : Entries) : Keeps es (es ++ more) := by
  have hlookup : ∀ key v, es.lookup key = some v → (es ++ more).lookup key = some v := by
    intro key v h
    rw [List.lookup_append, h]
    rfl
  refine keeps_of_lookup (fun key vs h => hlookup key _ h) fun key o fs h => ?_
  exact ⟨o, fs, hlookup key _ h, Keeps.refl fs⟩

theorem lookup_cons_eq_ite (k : String) (v : Value) (es : Entries) (name : String) :
    List.lookup name ((k, v) :: es) = if name = k then some v else es.lookup name := by
  rw [List.lookup_cons]
  by_cases hname : name = k
  · rw [if_pos hname, hname, beq_self_eq_true]
  · rw [if_neg hname, beq_false_of_ne hname]

theorem lookup_set (h : es.lookup key = some w) (v : Value) (name : String) :
    (set key v es).lookup name = if name = key then some v else es.lookup name := by
  induction es with
  | nil => simp at h
  | cons e es ih =>
      obtain ⟨k, u⟩ := e
      rw [set]
      by_cases hk : k = key
      · rw [if_pos hk, hk, lookup_cons_eq_ite, lookup_cons_eq_ite]
        split
        · rfl
        · rfl
      · rw [lookup_cons_eq_ite, if_neg (Ne.symm hk)] at h
        rw [if_neg hk, lookup_cons_eq_ite, lookup_cons_eq_ite, ih h]
        by_cases hname : name = k
        · rw [if_pos hname, if_pos hname, if_neg (hname ▸ hk)]
        · rw [if_neg hname, if_neg hname]

/-- A table may be replaced by one that keeps its arrays. -/
theorem keeps_set_table (h : es.lookup key = some (.table o fs)) (hfs : Keeps fs fs') :
    Keeps es (set key (.table o' fs') es) := by
  refine keeps_of_lookup (fun name vs hname => ?_) fun name o fs hname => ?_
  · rw [lookup_set h, if_neg]
    · exact hname
    · rintro rfl
      simp [hname] at h
  · rw [lookup_set h]
    by_cases heq : name = key
    · subst heq
      rw [hname] at h
      obtain ⟨rfl, rfl⟩ := Value.table.inj (Option.some.inj h)
      exact ⟨o', fs', if_pos rfl, hfs⟩
    · exact ⟨o, fs, by rw [if_neg heq, hname], Keeps.refl fs⟩

/-- An array of tables may be replaced by anything. -/
theorem keeps_set_tables (h : es.lookup key = some (.tables vs)) (v : Value) :
    Keeps es (set key v es) := by
  have hother : ∀ name w, es.lookup name = some w → w ≠ .tables vs →
      (set key v es).lookup name = some w := by
    intro name w hname hw
    rw [lookup_set h, if_neg]
    · exact hname
    · rintro rfl
      rw [hname] at h
      exact hw (Option.some.inj h)
  refine keeps_of_lookup (fun name ws hname => hother name _ hname (by simp)) ?_
  intro name o fs hname
  exact ⟨o, fs, hother name _ hname (by simp), Keeps.refl fs⟩

/-- An edit that replaces no array. -/
def Keeping (edit : Edit) : Prop :=
  ∀ {o es o' es'}, edit o es = some (o', es') → Keeps es es'

theorem keeping_walk (hedit : Keeping edit) (path : Path) : Keeping (walk byDots edit path) := by
  intro o es o' es' h
  -- Along the path, a table is replaced by one with an edit further down, and a new one is added.
  fun_induction walk byDots edit path o es generalizing o' es' with
  | case1 o es => exact hedit h
  | case2 key path o es _ o₁ es₁ _ ih =>
      obtain ⟨-, rfl⟩ := Prod.mk.inj (Option.some.inj h)
      exact keeps_append es _
  | case4 key path o es o₁ fs hlookup _ o₂ fs' hwalk ih =>
      obtain ⟨-, rfl⟩ := Prod.mk.inj (Option.some.inj h)
      exact keeps_set_table hlookup (ih hwalk)
  | case7 key path o es items hlookup o₁ fs _ o₂ fs' _ ih =>
      obtain ⟨-, rfl⟩ := Prod.mk.inj (Option.some.inj h)
      exact keeps_set_tables hlookup _
  | _ => simp at h

theorem keeping_add : Keeping (add byDots key v) := by
  intro o es o' es' h
  rw [add] at h
  split at h
  · obtain ⟨-, rfl⟩ := Prod.mk.inj (Option.some.inj h)
    exact keeps_append es _
  · simp at h

theorem keeping_insert : Keeping (insert path key v) := keeping_walk keeping_add path

theorem keeping_opened : Keeping (opened key) := by
  intro o es o' es' h
  rw [opened] at h
  split at h
  · obtain ⟨-, rfl⟩ := Prod.mk.inj (Option.some.inj h)
    exact keeps_append es _
  · rename_i fs hlookup
    obtain ⟨-, rfl⟩ := Prod.mk.inj (Option.some.inj h)
    exact keeps_set_table hlookup (Keeps.refl fs)
  · simp at h

theorem keeping_appended : Keeping (appended key) := by
  intro o es o' es' h
  rw [appended] at h
  split at h
  · obtain ⟨-, rfl⟩ := Prod.mk.inj (Option.some.inj h)
    exact keeps_append es _
  · rename_i items hlookup
    obtain ⟨-, rfl⟩ := Prod.mk.inj (Option.some.inj h)
    exact keeps_set_tables hlookup _
  · simp at h

end Table

open Table

theorem Draft.keeps_take {d d' : Draft} {s : Statement} (h : d.take s = some d') :
    Keeps d.entries d'.entries := by
  cases s with
  | header path key =>
      obtain ⟨⟨o, es⟩, hwalk, rfl⟩ := Option.map_eq_some_iff.mp h
      exact keeping_walk keeping_opened path hwalk
  | arrayHeader path key =>
      obtain ⟨⟨o, es⟩, hwalk, rfl⟩ := Option.map_eq_some_iff.mp h
      exact keeping_walk keeping_appended path hwalk
  | pair path key v =>
      obtain ⟨⟨o, es⟩, hwalk, rfl⟩ := Option.map_eq_some_iff.mp h
      exact keeping_walk keeping_insert d.under hwalk

/-- What the statements so far have put into arrays is there at the end. -/
theorem keeps_foldlM_take {ss : List Statement} {d d' : Draft}
    (h : ss.foldlM Draft.take d = some d') : Keeps d.entries d'.entries := by
  induction ss generalizing d with
  | nil =>
      obtain rfl := Option.some.inj h
      exact Keeps.refl _
  | cons s ss ih =>
      rw [List.foldlM_cons] at h
      obtain ⟨d₁, htake, hrest⟩ := Option.bind_eq_some_iff.mp h
      intro path key vs hvs
      exact ih hrest path key vs (Draft.keeps_take htake path key vs hvs)

end PackageSweep.Toml
