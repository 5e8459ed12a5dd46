import PackageSweep.Proofs.Spelling
import PackageSweep.World.Basic

/-!
# Walking through the file tree

A walk along two rows of names is a walk along the first and then, from where it ends, along the
second. A row of names that never climbs above its start leads, if it leads anywhere, to a place at
or below that start, and the place is told by the names alone. So what exists at a relative path of
this kind, seen from a directory, stands inside that directory.
-/

namespace PackageSweep

namespace Path

/-- Where names lead to below a start, from a place that is at `trail` below it: a climb takes back
the last step. There is no answer when a climb goes above the start. -/
def descend : (trail names : List (List Char)) → Option (List (List Char))
  | trail, [] => some trail
  | trail, n :: ns =>
    if n = ['.', '.'] then
      if trail = [] then none else descend trail.dropLast ns
    else descend (trail ++ [n]) ns

/-- A relative path that at no point of its way is above its start. -/
def staysInside (path : List Char) : Bool :=
  !isAbsolute path && (descend [] (names path)).isSome

end Path

namespace Tree

variable {t : Tree} {p q : Place}

/-- A walk takes the first step as a walk of its own. That its place is missing is found out by the
next step, if there is one. -/
theorem walk_cons (t : Tree) (p : Place) (n : String) (ns : List String) :
    t.walk p (n :: ns) = (t.walk p [n]).bind (t.walk · ns) := by
  rw [walk, walk]
  cases hp : t.entryAt? p with
  | none => rfl
  | some e =>
      cases e with
      | file contents => rfl
      | device => rfl
      | sealed fault => rfl
      | directory =>
          dsimp only
          split
          · rfl
          · split
            · rfl
            · cases ns with
              | nil => rfl
              | cons m ms =>
                  cases hn : t.entryAt? (p ++ [n]) with
                  | none => simp [Except.bind, walk, hn]
                  | some e => simp [Except.bind]

theorem walk_append (t : Tree) (p : Place) (xs ys : List String) :
    t.walk p (xs ++ ys) = (t.walk p xs).bind (t.walk · ys) := by
  induction xs generalizing p with
  | nil => rfl
  | cons n ns ih =>
      rw [List.cons_append, walk_cons t p n (ns ++ ys), walk_cons t p n ns]
      cases t.walk p [n] with
      | error e => rfl
      | ok q => exact ih q

theorem walk_climb_of_ok (h : t.walk p [".."] = .ok q) : q = p.dropLast := by
  rw [walk] at h
  split at h
  · simp at h
  · exact (Except.ok.inj h).symm
  · simp at h

theorem walk_step_of_ok {n : String} (hn : n ≠ "..") (h : t.walk p [n] = .ok q) :
    q = p ++ [n] ∧ n.utf8ByteSize ≤ maxName := by
  rw [walk] at h
  split at h
  · simp at h
  · rw [if_neg hn] at h
    split at h
    · simp at h
    · rename_i hshort
      exact ⟨(Except.ok.inj h).symm, Nat.not_lt.mp hshort⟩
  · simp at h

/-- A walk that never climbs above its start ends where its names say. -/
theorem walk_descend {trail names out : List (List Char)}
    (hwalk : t.walk (p ++ trail.map String.ofList) (names.map String.ofList) = .ok q)
    (hout : Path.descend trail names = some out) : q = p ++ out.map String.ofList := by
  induction names generalizing trail with
  | nil =>
      obtain rfl := Option.some.inj hout
      exact (Except.ok.inj hwalk).symm
  | cons n ns ih =>
      rw [List.map_cons, walk_cons] at hwalk
      rw [Path.descend] at hout
      cases hstep : t.walk (p ++ trail.map String.ofList) [String.ofList n] with
      | error e => simp [hstep, Except.bind] at hwalk
      | ok r =>
          rw [hstep] at hwalk
          by_cases hn : n = ['.', '.']
          · rw [if_pos hn] at hout
            by_cases htrail : trail = []
            · simp [htrail] at hout
            · rw [if_neg htrail] at hout
              have hr : r = p ++ trail.dropLast.map String.ofList := by
                rw [hn] at hstep
                rw [walk_climb_of_ok hstep, List.dropLast_append_of_ne_nil (by simpa using htrail),
                  List.map_dropLast]
              exact ih (hr ▸ hwalk) hout
          · rw [if_neg hn] at hout
            have hr : r = p ++ (trail ++ [n]).map String.ofList := by
              have hne : String.ofList n ≠ ".." := by
                intro heq
                exact hn (by simpa using congrArg String.toList heq)
              rw [(walk_step_of_ok hne hstep).1, List.map_append, List.append_assoc]
              rfl
            exact ih (hr ▸ hwalk) hout

end Tree

namespace World

/-- The place that the names of a path lead to. The empty path leads to where the program stands. -/
def reach (w : World) (path : String) : Except SystemFault Place :=
  w.tree.walk (if Path.isAbsolute path.toList then [] else w.here)
    ((Path.names path.toList).map String.ofList)

/-- Something stands where the names of a path lead to from a directory, and on their way they never
climb above that directory. -/
def HoldsInside (w : World) (directory path : String) : Prop :=
  ∃ place below entry, w.reach directory = .ok place ∧
    Path.descend [] (Path.names path.toList) = some below ∧
    w.tree.walk place ((Path.names path.toList).map String.ofList) =
      .ok (place ++ below.map String.ofList) ∧
    w.tree.entryAt? (place ++ below.map String.ofList) = some entry

variable {w : World} {directory path : String}

theorem entryAt?_of_find {place : Place} {entry : Entry} (h : w.find path = .ok (place, entry)) :
    w.reach path = .ok place ∧ w.tree.entryAt? place = some entry := by
  rw [find] at h
  cases hlocate : w.locate path with
  | error e => simp [hlocate] at h
  | ok p =>
      have hreach : w.reach path = .ok p := by
        rw [locate] at hlocate
        split at hlocate
        · simp at hlocate
        · split at hlocate
          · simp at hlocate
          · exact hlocate
      cases hentry : w.tree.entryAt? p with
      | none => simp [hlocate, hentry] at h
      | some e =>
          have hsame : p = place ∧ e = entry := by
            cases e with
            | directory => simpa [hlocate, hentry] using h
            | file contents =>
                simp only [hlocate, hentry] at h
                split at h <;> simp_all
            | device | sealed fault =>
                simp only [hlocate, hentry] at h
                split at h <;> simp_all
          obtain ⟨rfl, rfl⟩ := hsame
          exact ⟨hreach, hentry⟩

theorem exists_of_exists? (h : w.exists? path = true) :
    ∃ place entry, w.reach path = .ok place ∧ w.tree.entryAt? place = some entry := by
  rw [exists?, entryAt?] at h
  split at h
  · simp at h
  · cases hfind : w.find path with
    | error e => simp [hfind, Except.toOption] at h
    | ok found => exact ⟨found.1, found.2, entryAt?_of_find hfind⟩

/-- From a directory, a relative path goes on where the path of the directory has led to. -/
theorem reach_entry (h : Path.isAbsolute path.toList = false) :
    w.reach (Directory.entry directory path) =
      (w.reach directory).bind (w.tree.walk · ((Path.names path.toList).map String.ofList)) := by
  rw [reach, reach, Directory.entry, String.toList_ofList, Path.names_join h,
    Path.isAbsolute_join h, List.map_append, Tree.walk_append]

theorem holdsInside_of_exists? (hstays : Path.staysInside path.toList = true)
    (h : w.exists? (Directory.entry directory path) = true) : w.HoldsInside directory path := by
  obtain ⟨hrel, hdescend⟩ := Bool.and_eq_true_iff.mp hstays
  obtain ⟨below, hbelow⟩ := Option.isSome_iff_exists.mp hdescend
  obtain ⟨q, entry, hreach, hentry⟩ := exists_of_exists? h
  rw [reach_entry (by simpa using hrel)] at hreach
  cases hplace : w.reach directory with
  | error e => simp [hplace, Except.bind] at hreach
  | ok place =>
      rw [hplace] at hreach
      have hq : q = place ++ below.map String.ofList := by
        refine Tree.walk_descend (t := w.tree) ?_ hbelow
        rw [List.map_nil, List.append_nil]
        exact hreach
      exact ⟨place, below, entry, hplace, hbelow, hq ▸ hreach, hq ▸ hentry⟩

end World

end PackageSweep
