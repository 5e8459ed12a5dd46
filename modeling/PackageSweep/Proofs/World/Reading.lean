import PackageSweep.Proofs.World.Decoding
import PackageSweep.World.Basic

/-!
# What reading depends on

A file is read from what stands at the end of its path, and from nothing else in the world. So two
worlds with the same entry at a path have the same file there, with the same text. There are two
reasons why a file gives no text: it cannot be opened, or its bytes are none.
-/

namespace PackageSweep

/-- What an entry gives to one who reads it. -/
def Entry.bytes : Entry → Except IoCause Bytes
  | .file contents => .ok contents
  | .directory => .error (.system .isDirectory)
  | .device => .ok []
  | .sealed fault => .error (.system fault)

namespace World

/-- Why a file gives no text. -/
inductive Unreadable (w : World) (path : String) : IoCause → Prop
  | sealed {fault : SystemFault} (hentry : w.entryAt? path = some (.sealed fault)) :
      Unreadable w path (.system fault)
  | notText {contents : Bytes} (hentry : w.entryAt? path = some (.file contents))
      (hnot : ∀ text, Utf8.ofString text ≠ contents) : Unreadable w path .notText

variable {w w' : World} {path : String}

theorem isFile_congr (h : w'.entryAt? path = w.entryAt? path) : w'.isFile path = w.isFile path := by
  rw [isFile, isFile, h]

theorem isFile_iff : w.isFile path ↔ ∃ e, w.entryAt? path = some e ∧ e.isRegular = true := by
  rw [isFile, Option.any_eq_true]

theorem find_of_entryAt? {e : Entry} (h : w.entryAt? path = some e) :
    ¬ hasNul path ∧ ∃ place, w.find path = .ok (place, e) := by
  rw [entryAt?] at h
  split at h
  · simp at h
  · rename_i hnul
    refine ⟨hnul, ?_⟩
    cases hfind : w.find path with
    | error fault => simp [hfind, Except.toOption] at h
    | ok found =>
        obtain ⟨place, e'⟩ := found
        obtain rfl : e' = e := by simpa [hfind, Except.toOption] using h
        exact ⟨place, rfl⟩

theorem readBytes_of_entryAt? {e : Entry} (h : w.entryAt? path = some e) :
    w.readBytes path = e.bytes := by
  obtain ⟨hnul, place, hfind⟩ := find_of_entryAt? h
  rw [readBytes, if_neg hnul, hfind]
  cases e <;> rfl

theorem readText_of_directory (h : w.entryAt? path = some .directory) :
    w.readText path = .error (.system .isDirectory) := by
  rw [readText, readBytes_of_entryAt? h, Entry.bytes]

theorem readText_of_device (h : w.entryAt? path = some .device) : w.readText path = .ok "" := by
  rw [readText, readBytes_of_entryAt? h, Entry.bytes]
  rfl

theorem readText_of_sealed {fault : SystemFault} (h : w.entryAt? path = some (.sealed fault)) :
    w.readText path = .error (.system fault) := by
  rw [readText, readBytes_of_entryAt? h, Entry.bytes]

theorem readText_of_text {text : String}
    (h : w.entryAt? path = some (.file (Utf8.ofString text))) : w.readText path = .ok text := by
  rw [readText, readBytes_of_entryAt? h, Entry.bytes]
  simp only [Utf8.ofString, Utf8.decode_encode, String.ofList_toList]

theorem readText_of_not_text {contents : Bytes} (h : w.entryAt? path = some (.file contents))
    (hnot : ∀ text, Utf8.ofString text ≠ contents) : w.readText path = .error .notText := by
  rw [readText, readBytes_of_entryAt? h, Entry.bytes]
  cases hdecode : Utf8.decode contents with
  | none => simp only [hdecode]
  | some cs =>
      have hbytes : Utf8.ofString (String.ofList cs) = contents := by
        rw [Utf8.ofString, String.toList_ofList]
        exact Utf8.decode_eq_some_iff.mp hdecode
      exact absurd hbytes (hnot _)

/-- Nothing but these two reasons keeps a file from being read. -/
theorem unreadable_iff (hfile : w.isFile path) {cause : IoCause} :
    w.Unreadable path cause ↔ w.readText path = .error cause := by
  constructor
  · intro h
    cases h with
    | sealed hentry => exact readText_of_sealed hentry
    | notText hentry hnot => exact readText_of_not_text hentry hnot
  · intro h
    obtain ⟨e, hentry, hregular⟩ := isFile_iff.mp hfile
    cases e with
    | sealed fault =>
        obtain rfl := Except.error.inj ((readText_of_sealed hentry).symm.trans h)
        exact .sealed hentry
    | file contents =>
        by_cases htext : ∃ text, Utf8.ofString text = contents
        · obtain ⟨text, rfl⟩ := htext
          simp [readText_of_text hentry] at h
        · have hnot : ∀ text, Utf8.ofString text ≠ contents := not_exists.mp htext
          obtain rfl := Except.error.inj ((readText_of_not_text hentry hnot).symm.trans h)
          exact .notText hentry hnot
    | directory | device => simp [Entry.isRegular] at hregular

theorem exists_readText_error (h : w.entryAt? path = none) :
    ∃ cause, w.readText path = .error cause := by
  by_cases hnul : hasNul path
  · refine ⟨.nulInPath, ?_⟩
    rw [readText, readBytes, if_pos hnul]
  · cases hfind : w.find path with
    | error fault =>
        refine ⟨.system fault, ?_⟩
        rw [readText, readBytes, if_neg hnul, hfind]
    | ok found => simp [entryAt?, hnul, hfind, Except.toOption] at h

theorem readText_congr (hfile : w.isFile path) (h : w'.entryAt? path = w.entryAt? path) :
    w'.readText path = w.readText path := by
  obtain ⟨e, hentry, -⟩ := isFile_iff.mp hfile
  rw [readText, readText, readBytes_of_entryAt? hentry, readBytes_of_entryAt? (h.trans hentry)]

end World

end PackageSweep
