import Mathlib.Data.List.Infix
import PackageSweep.Proofs.Sweep.Story

/-!
# What the texts of a log tell

The text of an event holds all that the event is about: the directory, the command, and the reason,
the time or the code that goes with it. Its first words tell which kind of event of a sweep it is,
so two events in the logs of sweeps with the same text are of the same kind. Of these kinds only the
failure of a command is an error.
-/

namespace PackageSweep

/-- The parts stand in the text, in this order and with words around them. -/
inductive Text.Holds : List String → String → Prop where
  | words (text : String) : Holds [] text
  | word {parts : List String} {text : String} (h : Holds parts text) (word : String) :
      Holds parts (text ++ word)
  | part {parts : List String} {text : String} (h : Holds parts text) (part : String) :
      Holds (parts ++ [part]) (text ++ part)

theorem Text.Holds.whole (text : String) : Text.Holds [text] text := by
  simpa using Text.Holds.part (.words "") text

theorem Text.Holds.infix {parts : List String} {part text : String} (h : Text.Holds parts text)
    (hpart : part ∈ parts) : part.toList <:+: text.toList := by
  induction h with
  | words => simp at hpart
  | word _ _ ih =>
      rw [String.toList_append]
      exact (ih hpart).trans (List.prefix_append _ _).isInfix
  | part _ last ih =>
      rw [String.toList_append]
      rcases List.mem_append.mp hpart with hpart | hpart
      · exact (ih hpart).trans (List.prefix_append _ _).isInfix
      · obtain rfl := List.mem_singleton.mp hpart
        exact (List.suffix_append _ _).isInfix

namespace Event

/-- What an event is about, as its text writes it. -/
def parts (w : Wording) : Event → List String
  | .loading path => [path]
  | .builtin => [Config.fileName]
  | .opening command packages root os => [command, toString packages, root, os]
  | .executing command directory => [command, directory]
  | .skipped directory reason => [directory, reason.text]
  | .planned command directory => [command, directory]
  | .spawning directory => [directory]
  | .failed command directory code => [command, directory, codeText code]
  | .finished directory elapsed => [directory, w.elapsed elapsed]
  | .summary s => [s.text]
  | .version row => [row.directory, row.current, row.next]
  | .arguments a => [a.text]
  | .fault f => [f.message w]
  | .advice f => [f.advice]
  | .succeeded command done passed elapsed =>
    [command, toString done, toString passed, w.elapsed elapsed]

/-- The kinds of events that a sweep logs itself. -/
inductive Kind where
  | opening
  | executing
  | skipped
  | planned
  | failed
  | finished
  | summary
  deriving DecidableEq

def kind? : Event → Option Kind
  | .opening _ _ _ _ => some .opening
  | .executing _ _ => some .executing
  | .skipped _ _ => some .skipped
  | .planned _ _ => some .planned
  | .failed _ _ _ => some .failed
  | .finished _ _ => some .finished
  | .summary _ => some .summary
  | _ => none

/-- The words that texts of a kind begin with. -/
def Kind.words : Kind → String
  | .opening => "Running '"
  | .executing => "Executing '"
  | .skipped => "⏭️ Skip "
  | .planned => "🔍 Would run '"
  | .failed => "❌ '"
  | .finished => "✅ "
  | .summary => "📊 Run summary: "

variable {e e' : Event} {k k' : Kind}

theorem holds_parts (w : Wording) (e : Event) : Text.Holds (e.parts w) (e.text w) := by
  cases e with
  | loading path => exact .part (.words _) path
  | builtin => exact .word (.part (.words _) Config.fileName) _
  | opening command packages root os =>
      have hcommand := Text.Holds.part (.words "Running '") command
      have hpackages := (hcommand.word "' across ").part (toString packages)
      have hroot := (hpackages.word " packages (root: ").part root
      exact ((hroot.word ", os: ").part os).word ")"
  | executing command directory => exact .part (.word (.part (.words _) command) _) directory
  | skipped directory reason => exact .part (.word (.part (.words _) directory) _) reason.text
  | planned command directory => exact .part (.word (.part (.words _) command) _) directory
  | spawning directory => exact .part (.words _) directory
  | failed command directory code =>
      have hcommand := Text.Holds.part (.words "❌ '") command
      have hdirectory := (hcommand.word "' failed in ").part directory
      exact ((hdirectory.word " (exit code: ").part (codeText code)).word ")"
  | finished directory elapsed =>
      exact .part (.word (.part (.words _) directory) _) (w.elapsed elapsed)
  | summary s => exact .part (.words _) s.text
  | version row =>
      have hdirectory := Text.Holds.whole row.directory
      exact .part (.word (.part (.word hdirectory _) row.current) _) row.next
  | arguments a => exact .part (.words _) a.text
  | fault f => exact .part (.words _) (f.message w)
  | advice f => exact .part (.words _) f.advice
  | succeeded command done passed elapsed =>
      have hcommand := Text.Holds.part (.words "✅ '") command
      have hdone := (hcommand.word "' succeeded in ").part (toString done)
      have hpassed := (hdone.word " packages (").part (toString passed)
      exact (hpassed.word " skipped) in ").part (w.elapsed elapsed)

theorem prefix_append_text {cs : List Char} {s t : String} (h : cs <+: s.toList) :
    cs <+: (s ++ t).toList := by
  rw [String.toList_append]
  exact h.trans (List.prefix_append _ _)

theorem words_prefix_text (w : Wording) (h : e.kind? = some k) :
    k.words.toList <+: (e.text w).toList := by
  cases e with
  | opening | executing | skipped | planned | failed | finished | summary =>
      obtain rfl := Option.some.inj h
      repeat apply prefix_append_text
      exact List.prefix_rfl
  | loading | builtin | spawning | version | arguments | fault | advice | succeeded =>
      simp [kind?] at h

/-- The words that one kind of texts begins with are not the beginning of those of another kind. -/
theorem Kind.eq_of_prefix (h : k.words.toList <+: k'.words.toList) : k = k' := by
  cases k <;> cases k' <;> first | rfl | exact absurd h (by decide +kernel)

theorem kind_eq_of_text_eq {w w' : Wording} (h : e.kind? = some k) (h' : e'.kind? = some k')
    (htext : e.text w = e'.text w') : k = k' := by
  have hwords := words_prefix_text w h
  rw [htext] at hwords
  rcases List.prefix_or_prefix_of_prefix hwords (words_prefix_text w' h') with hle | hle
  · exact Kind.eq_of_prefix hle
  · exact (Kind.eq_of_prefix hle).symm

theorem level_eq_error_iff (h : e.kind? = some k) : e.level = .error ↔ k = .failed := by
  cases e with
  | failed =>
      obtain rfl := Option.some.inj h
      exact iff_of_true rfl rfl
  | opening | executing | skipped | planned | finished | summary =>
      obtain rfl := Option.some.inj h
      exact iff_of_false (by simp [level]) (by decide)
  | loading | builtin | spawning | version | arguments | fault | advice | succeeded =>
      simp [kind?] at h

end Event

namespace Sweep

open Event (Kind)

variable {s s' : Sweep} {run run' : Runner} {w w' : World} {e e' : Event} {report : Report}

theorem exists_kind_of_mem_told {r : PackageResult} (h : e ∈ s.told r) :
    ∃ k : Kind, e.kind? = some k ∧ k ≠ .failed := by
  obtain ⟨d, outcome⟩ := r
  rcases List.mem_pair.mp h with rfl | rfl
  · exact ⟨.executing, rfl, by decide⟩
  · cases outcome with
    | executed => exact ⟨.finished, rfl, by decide⟩
    | skipped => exact ⟨.skipped, rfl, by decide⟩
    | planned => exact ⟨.planned, rfl, by decide⟩

/-- An event of a story is one of its opening, one that tells of a package, or one of its end. -/
theorem exists_kind_of_mem_story {results : List PackageResult} {rest : List Event}
    (h : e ∈ s.opening :: (results.flatMap s.told ++ rest)) :
    (∃ k : Kind, e.kind? = some k ∧ k ≠ .failed) ∨ e ∈ rest := by
  rcases List.mem_cons.mp h with rfl | h
  · exact .inl ⟨.opening, rfl, by decide⟩
  · rcases List.mem_append.mp h with htold | hrest
    · obtain ⟨r, -, hr⟩ := List.mem_flatMap.mp htold
      exact .inl (exists_kind_of_mem_told hr)
    · exact .inr hrest

theorem exists_kind_of_run_ok (hsilent : run.Silent) (h : (s.run run w).result = .ok report)
    (he : e ∈ (s.run run w).trace.events) : ∃ k : Kind, e.kind? = some k ∧ k ≠ .failed := by
  obtain ⟨summary, -, hevents⟩ := exists_events_of_run_ok hsilent h
  rw [hevents] at he
  rcases exists_kind_of_mem_story he with hkind | he
  · exact hkind
  · obtain rfl := List.mem_singleton.mp he
    exact ⟨.summary, rfl, by decide⟩

theorem exists_kind_of_mem (hsilent : run.Silent) (he : e ∈ (s.run run w).trace.events) :
    ∃ k : Kind, e.kind? = some k := by
  cases h : (s.run run w).result with
  | ok report =>
      obtain ⟨k, hk, -⟩ := exists_kind_of_run_ok hsilent h he
      exact ⟨k, hk⟩
  | error fault =>
      obtain ⟨before, d, later, -, -, hevents⟩ := exists_events_of_run_error hsilent h
      rw [hevents] at he
      rcases exists_kind_of_mem_story he with ⟨k, hk, -⟩ | he
      · exact ⟨k, hk⟩
      · rcases List.mem_cons.mp he with rfl | he
        · exact ⟨.executing, rfl⟩
        · cases hreply : (s.replyAfter run before d w).result with
          | error fault => simp [hreply, lastWords] at he
          | ok status =>
              rw [hreply] at he
              obtain rfl := List.mem_singleton.mp he
              exact ⟨.failed, rfl⟩

/-- The texts in the logs of sweeps tell of which kind their events are. -/
theorem kind?_eq_of_text_eq (words words' : Wording) (hsilent : run.Silent)
    (hsilent' : run'.Silent) (he : e ∈ (s.run run w).trace.events)
    (he' : e' ∈ (s'.run run' w').trace.events) (htext : e.text words = e'.text words') :
    e.kind? = e'.kind? := by
  obtain ⟨k, hk⟩ := exists_kind_of_mem hsilent he
  obtain ⟨k', hk'⟩ := exists_kind_of_mem hsilent' he'
  rw [hk, hk', Event.kind_eq_of_text_eq hk hk' htext]

/-- A sweep that ends well logs no error. -/
theorem level_ne_error_of_run_ok (hsilent : run.Silent) (h : (s.run run w).result = .ok report)
    (he : e ∈ (s.run run w).trace.events) : e.level ≠ .error := by
  obtain ⟨k, hk, hne⟩ := exists_kind_of_run_ok hsilent h he
  exact fun herror => hne ((Event.level_eq_error_iff hk).mp herror)

/-- The log of a sweep that ends well names each package of its report, with what became of it. -/
theorem exists_event_holds (words : Wording) (hsilent : run.Silent)
    (h : (s.run run w).result = .ok report) {r : PackageResult} (hr : r ∈ report.results) :
    ∃ e ∈ (s.run run w).trace.events, Text.Holds (e.parts words) (e.text words) ∧
      e = r.event s.command ∧ r.directory.toList <:+: (e.text words).toList := by
  obtain ⟨summary, -, hevents⟩ := exists_events_of_run_ok hsilent h
  have hmem : r.event s.command ∈ (s.run run w).trace.events := by
    rw [hevents]
    refine List.mem_cons_of_mem _ (List.mem_append_left _ (List.mem_flatMap.mpr ⟨r, hr, ?_⟩))
    exact List.mem_cons_of_mem _ List.mem_cons_self
  have hholds := Event.holds_parts words (r.event s.command)
  refine ⟨_, hmem, hholds, rfl, hholds.infix ?_⟩
  obtain ⟨d, outcome⟩ := r
  cases outcome <;> simp [PackageResult.event, Event.parts]

end Sweep

end PackageSweep
