import PackageSweep.Proofs.World.Walk

/-!
# Paths that can exist

Some worlds have something at a path and others have nothing there, unless the path is empty, holds
a NUL or is too long: then nothing is there in any world. To have something at a path, put a
directory at each place that a walk along its names comes through.
-/

namespace PackageSweep

/-- A path that something can be found at, going by its text. -/
structure Path.Fits (path : String) : Prop where
  ne_empty : path ≠ ""
  nul_notMem : '\x00' ∉ path.toList
  short : path.utf8ByteSize < Tree.maxPath
  names_short : ∀ n ∈ names path.toList, (String.ofList n).utf8ByteSize ≤ Tree.maxName

namespace Tree

variable {t : Tree} {p q : Place} {names : List String}

/-- The places that a walk comes through when nothing is in its way. -/
def along : Place → List String → List Place
  | p, [] => [p]
  | p, n :: ns => p :: along (if n = ".." then p.dropLast else p ++ [n]) ns

/-- The tree that has directories at these places and nothing else. -/
def ofDirectories (places : List Place) : Tree := ⟨places.map (·, .directory)⟩

theorem entryAt?_ofDirectories {places : List Place} (h : q ∈ places) :
    entryAt? (ofDirectories places) q = some .directory := by
  have hlookup : (places.map (·, Entry.directory)).lookup q = some .directory := by
    induction places with
    | nil => simp at h
    | cons r rs ih =>
        by_cases hr : q = r
        · simp [hr]
        · rw [List.map_cons, List.lookup_cons, beq_eq_false_iff_ne.mpr hr]
          exact ih ((List.mem_cons.mp h).resolve_left hr)
  by_cases hroot : q = []
  · rw [hroot, entryAt?_nil]
  · rw [entryAt?, if_neg hroot]
    exact hlookup

theorem mem_along_self (p : Place) (names : List String) : p ∈ along p names := by
  cases names <;> exact List.mem_cons_self

/-- A walk through directories alone arrives. -/
theorem exists_walk_of_along (hshort : ∀ n ∈ names, n.utf8ByteSize ≤ maxName)
    (hplaces : ∀ r ∈ along p names, t.entryAt? r = some .directory) :
    ∃ q, t.walk p names = .ok q ∧ t.entryAt? q = some .directory := by
  induction names generalizing p with
  | nil => exact ⟨p, rfl, hplaces p (mem_along_self p [])⟩
  | cons n ns ih =>
      obtain ⟨hn, hns⟩ := List.forall_mem_cons.mp hshort
      obtain ⟨hp, hnext⟩ := List.forall_mem_cons.mp hplaces
      have hstep : t.walk p [n] = .ok (if n = ".." then p.dropLast else p ++ [n]) := by
        rw [walk, hp]
        by_cases hclimb : n = ".."
        · simp [hclimb, walk]
        · simp [hclimb, Nat.not_lt.mpr hn]
      rw [walk_cons, hstep]
      exact ih hns hnext

theorem short_of_walk_ok (h : t.walk p names = .ok q) :
    ∀ n ∈ names, n.utf8ByteSize ≤ maxName := by
  induction names generalizing p with
  | nil => simp
  | cons n ns ih =>
      rw [walk_cons] at h
      cases hstep : t.walk p [n] with
      | error e => simp [hstep, Except.bind] at h
      | ok r =>
          rw [hstep] at h
          have hn : n.utf8ByteSize ≤ maxName := by
            by_cases hclimb : n = ".."
            · rw [hclimb]
              decide
            · exact (walk_step_of_ok hclimb hstep).2
          exact List.forall_mem_cons.mpr ⟨hn, ih h⟩

end Tree

namespace World

variable {w : World} {path : String}

theorem names_short_of_reach {place : Place} (h : w.reach path = .ok place) :
    ∀ n ∈ Path.names path.toList, (String.ofList n).utf8ByteSize ≤ Tree.maxName :=
  List.forall_mem_map.mp (Tree.short_of_walk_ok h)

theorem fits_of_exists? (h : w.exists? path = true) : Path.Fits path := by
  obtain ⟨place, entry, hreach, -⟩ := exists_of_exists? h
  have hnames := names_short_of_reach hreach
  rw [exists?, entryAt?] at h
  split at h
  · simp at h
  · rename_i hnul
    by_cases hempty : path = ""
    · simp [find, locate, hempty, Except.toOption] at h
    · by_cases hlong : Tree.maxPath ≤ path.utf8ByteSize
      · simp [find, locate, hempty, hlong, Except.toOption] at h
      · exact ⟨hempty, by simpa [hasNul] using hnul, by omega, hnames⟩

theorem exists_exists?_of_fits (h : Path.Fits path) : ∃ w : World, w.exists? path = true := by
  let names := (Path.names path.toList).map String.ofList
  let w : World := { World.empty with tree := .ofDirectories (Tree.along [] names) }
  obtain ⟨place, hwalk, hentry⟩ : ∃ q, w.tree.walk [] names = .ok q ∧ w.tree.entryAt? q = _ :=
    Tree.exists_walk_of_along (List.forall_mem_map.mpr h.names_short)
      fun r hr => Tree.entryAt?_ofDirectories hr
  have hlocate : w.locate path = .ok place := by
    have hstart : (if Path.isAbsolute path.toList then [] else w.here) = [] := ite_self []
    simp only [locate, String.isEmpty_iff, h.ne_empty, if_false, Nat.not_le.mpr h.short, hstart]
    exact hwalk
  have hnul : ¬ hasNul path = true := by simpa [hasNul] using h.nul_notMem
  refine ⟨w, ?_⟩
  rw [exists?, entryAt?, if_neg hnul, find, hlocate]
  simp [hentry, Except.toOption]

/-- The text of a path says whether any world has something there. -/
theorem exists_exists?_iff : (∃ w : World, w.exists? path = true) ↔ Path.Fits path := by
  constructor
  · rintro ⟨w, h⟩
    exact fits_of_exists? h
  · exact exists_exists?_of_fits

end World

end PackageSweep
