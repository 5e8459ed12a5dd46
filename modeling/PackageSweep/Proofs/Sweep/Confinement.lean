import Mathlib.Data.List.Nodup
import PackageSweep.Proofs.Acceptance
import PackageSweep.Proofs.Sweep.Visits

/-!
# Where commands run

The paths of the calls are the resolved paths of the packages, each at most once. In an accepted
configuration they differ from each other, since equal ones would have one normal form, and each of
them goes down from the root by plain names.
-/

namespace PackageSweep

/-- A path that goes down from a root by plain names, if it goes anywhere. -/
def Path.IsBelow (root path : String) : Prop :=
  ∃ names : List (List Char), (∀ n ∈ names, IsPlain n) ∧
    path = String.ofList (join root.toList (Text.joined '/' names))

theorem IsDirectoryPath.isBelow_resolve {directory : String} (h : IsDirectoryPath directory)
    (root : String) : Path.IsBelow root (Directory.resolve root directory) := by
  refine ⟨Path.names directory.toList, fun n hn => h.isPlain_of_mem_names hn, ?_⟩
  rw [Directory.resolve, Path.tidy_of_relative h.relative]

theorem Config.Accepted.nodup_map_resolve {c : Config} (h : c.Accepted) (root : String) :
    (c.packages.map (Directory.resolve root)).Nodup := by
  apply List.Nodup.map_on
  · intro a ha b hb hab
    have hform : Directory.normalForm a = Directory.normalForm b :=
      Directory.normalForm_eq_of_resolve_eq (h.packages_path a ha).relative
        (h.packages_path b hb).relative hab
    exact List.inj_on_of_nodup_map h.packages_nodup ha hb hform
  · exact h.packages_nodup.of_map

namespace Sweep

variable {s : Sweep} {run : Runner} {w : World}

theorem run_calls_sublist : (s.run run w).calls.Sublist (s.config.packages.map s.call) := by
  rw [run_calls]
  exact visit_calls_sublist s.config.packages w

theorem exists_package_of_mem_calls {call : Call} (h : call ∈ (s.run run w).calls) :
    ∃ d ∈ s.config.packages, s.call d = call :=
  List.mem_map.mp (run_calls_sublist.subset h)

theorem run_paths_nodup (haccepted : s.config.Accepted) :
    ((s.run run w).calls.map Call.path).Nodup := by
  have hsub : ((s.run run w).calls.map Call.path).Sublist
      ((s.config.packages.map s.call).map Call.path) := run_calls_sublist.map Call.path
  rw [List.map_map] at hsub
  exact (haccepted.nodup_map_resolve s.root).sublist hsub

/-- A sweep of an accepted configuration runs nothing outside the root by its spelling, and nothing
twice in one directory: the paths differ, and so do the rows of names in them. -/
theorem run_confined (s : Sweep) (run : Runner) (w : World) (hvalid : s.config.validate = .ok ()) :
    ((s.run run w).calls.map Call.path).Nodup ∧
      ((s.run run w).calls.map fun call => Path.names call.path.toList).Nodup ∧
      ∀ call ∈ (s.run run w).calls, Path.IsBelow s.root call.path := by
  have haccepted := Config.validate_eq_ok_iff.mp hvalid
  have hnodup : ((s.run run w).calls.map Call.path).Nodup := run_paths_nodup haccepted
  refine ⟨hnodup, ?_, ?_⟩
  · have hnames : ((s.run run w).calls.map fun call => Path.names call.path.toList) =
        ((s.run run w).calls.map Call.path).map fun path => Path.names path.toList := by
      rw [List.map_map]
      rfl
    rw [hnames]
    refine List.Nodup.map_on ?_ hnodup
    intro p hp q hq hpq
    obtain ⟨call, hcall, rfl⟩ := List.mem_map.mp hp
    obtain ⟨call', hcall', rfl⟩ := List.mem_map.mp hq
    obtain ⟨d, hd, rfl⟩ := exists_package_of_mem_calls hcall
    obtain ⟨d', hd', rfl⟩ := exists_package_of_mem_calls hcall'
    exact Directory.resolve_eq_of_names_eq (haccepted.packages_path d hd).relative
      (haccepted.packages_path d' hd').relative hpq
  · intro call hcall
    obtain ⟨d, hd, rfl⟩ := exists_package_of_mem_calls hcall
    exact (haccepted.packages_path d hd).isBelow_resolve s.root

/-- One package in each of the spellings that differ most from its path. -/
def oddlySpelled : Sweep where
  config := { packages := ["./a//b/", ".", "a/./c", "a\\\\d"] }
  platform := .linux
  root := "ws"
  command := "make"

theorem oddlySpelled_confined :
    oddlySpelled.config.validate = .ok () ∧
      (oddlySpelled.run .idle .empty).calls.map Call.path =
        ["ws/a/b", "ws/", "ws/a/c", "ws/a\\\\d"] ∧
      ((oddlySpelled.run .idle .empty).calls.map Call.path).Nodup ∧
      ((oddlySpelled.run .idle .empty).calls.map
        fun call => Path.names call.path.toList).Nodup ∧
      ∀ call ∈ (oddlySpelled.run .idle .empty).calls,
        Path.IsBelow "ws" call.path := by
  have hvalid : oddlySpelled.config.validate = .ok () := by decide +kernel
  exact ⟨hvalid, by decide +kernel, run_confined oddlySpelled .idle _ hvalid⟩

end Sweep

end PackageSweep
