import Mathlib.Data.List.Nodup
import PackageSweep.Arguments.Programs
import PackageSweep.Proofs.Arguments.Grammar

/-!
# Options and the command after them

Options may be spelled in many ways and come in any order. However they are spelled, they are
settled as chosen, and the command that follows is left as it is: it begins after two dashes alone,
or with the first argument that is no option.
-/

namespace PackageSweep

namespace Arguments

/-- An option as it stands on a command line. -/
inductive Spelling where
  /-- `--root VALUE` -/
  | root (value : String)
  /-- `--root=VALUE` -/
  | rootEquals (value : String)
  /-- `--config VALUE` -/
  | config (value : String)
  /-- `--config=VALUE` -/
  | configEquals (value : String)
  /-- `-c VALUE` -/
  | configLetter (value : String)
  /-- `--verbose` -/
  | verbose
  /-- `-v` -/
  | verboseLetter
  /-- `-vc VALUE` -/
  | verboseConfigLetters (value : String)
  /-- `--dry-run` -/
  | dryRun
  /-- `--json-logs` -/
  | jsonLogs

namespace Spelling

/-- The arguments that make up an option. -/
def arguments : Spelling → List String
  | .root value => ["--root", value]
  | .rootEquals value => ["--root=" ++ value]
  | .config value => ["--config", value]
  | .configEquals value => ["--config=" ++ value]
  | .configLetter value => ["-c", value]
  | .verbose => ["--verbose"]
  | .verboseLetter => ["-v"]
  | .verboseConfigLetters value => ["-vc", value]
  | .dryRun => ["--dry-run"]
  | .jsonLogs => ["--json-logs"]

/-- What an option chooses: settings with their values. A switch has the empty one. -/
def choices : Spelling → List (Setting × String)
  | .root value => [(.root, value)]
  | .rootEquals value => [(.root, value)]
  | .config value => [(.config, value)]
  | .configEquals value => [(.config, value)]
  | .configLetter value => [(.config, value)]
  | .verbose => [(.verbose, "")]
  | .verboseLetter => [(.verbose, "")]
  | .verboseConfigLetters value => [(.verbose, ""), (.config, value)]
  | .dryRun => [(.dryRun, "")]
  | .jsonLogs => [(.jsonLogs, "")]

end Spelling

namespace Options

def switch (k : Setting) (on : Bool) : List (Setting × String) := if on then [(k, "")] else []

/-- What the options of a sweep choose, each setting once. -/
def choices (o : Options) : List (Setting × String) :=
  o.root.toList.map (Setting.root, ·) ++ o.config.toList.map (Setting.config, ·) ++
    switch .dryRun o.dryRun ++ switch .verbose o.verbose ++ switch .jsonLogs o.jsonLogs

variable {o : Options} {k l : Setting} {value : String}

/-- No setting is chosen twice. -/
theorem nodup_choices (o : Options) : (o.choices.map Prod.fst).Nodup := by
  obtain ⟨root, config, dryRun, verbose, jsonLogs, json⟩ := o
  cases root <;> cases config <;> cases dryRun <;> cases verbose <;> cases jsonLogs <;>
    simp [choices, switch]

theorem recordAll_choices (o : Options) :
    recordAll o.choices {} = { o with json := false } := by
  obtain ⟨root, config, dryRun, verbose, jsonLogs, json⟩ := o
  cases root <;> cases config <;> cases dryRun <;> cases verbose <;> cases jsonLogs <;> rfl

/-- The order in which settings are recorded does not matter. -/
theorem recordAll_of_perm {cs : List (Setting × String)} (h : cs.Perm o.choices) :
    recordAll cs {} = { o with json := false } := by
  rw [← recordAll_choices]
  have hinj := List.inj_on_of_nodup_map (nodup_choices o)
  refine h.foldl_eq' ?_ ({} : Options)
  intro x hx y hy z
  by_cases hxy : x.1 = y.1
  · rw [hinj (h.subset hx) (h.subset hy) hxy]
  · exact record_comm hxy x.2 y.2 z

end Options

end Arguments

namespace SweepArguments

open Arguments

variable {s : State} {o : Options} {as : List String}

/-- The names of the long options. -/
def longNames : List String := ["help", "root", "config", "dry-run", "verbose", "json-logs"]

/-- The letters of the short options. -/
def optionLetters : List Char := ['h', 'c', 'v']

/-- An argument that is no option, so that the command begins with it. -/
structure BeginsCommand (a : String) : Prop where
  ne_dashes : a ≠ "--"
  ne_long : ∀ name ∈ longNames, a ≠ "--" ++ name ∧ ∀ value, a ≠ "--" ++ name ++ "=" ++ value
  ne_letters : ∀ letters, letters ≠ [] → (∀ c ∈ letters, c ∈ optionLetters) →
    a.toList ≠ '-' :: letters

theorem takesCommand_grammar : grammar.takesCommand = true := rfl

theorem long_mem_longNames {k : Setting} (h : k ∈ grammar.settings) : k.long ∈ longNames := by
  revert h
  cases k <;> decide

theorem mem_optionLetters {c : Char} (h : (grammar.byLetter? c).isSome) : c ∈ optionLetters := by
  obtain ⟨k, hk⟩ := Option.isSome_iff_exists.mp h
  have hc : k.letter? = some c := by simpa using List.find?_some hk
  cases k <;> simp [Setting.letter?] at hc <;> subst hc <;> decide

/-- What begins the command is no option. -/
theorem option?_of_beginsCommand {a : String} (h : BeginsCommand a) (s : State) :
    grammar.option? s (Shape.of a.toList) = none := by
  cases hshape : Shape.of a.toList with
  | dashes => rfl
  | word => rfl
  | long name value =>
      cases hname : grammar.byName? name with
      | none => simp [Grammar.option?, hname, takesCommand_grammar]
      | some k =>
          have hlong : k.long.toList = name := by simpa using List.find?_some hname
          obtain ⟨hplain, hvalue⟩ :=
            h.ne_long k.long (long_mem_longNames (List.mem_of_find?_eq_some hname))
          rcases Shape.eq_of_of_eq_long hshape with ha | ⟨v, ha⟩
          · refine absurd (String.toList_injective ?_) hplain
            rw [ha, String.toList_append, hlong]
            rfl
          · refine absurd (String.toList_injective ?_) (hvalue (String.ofList v))
            rw [ha, String.toList_append, String.toList_append, String.toList_append, hlong]
            simp
  | letters cs =>
      obtain ⟨ha, hne⟩ := Shape.eq_of_of_eq_letters hshape
      have hunknown : cs.all (fun c => (grammar.byLetter? c).isSome) = false := by
        rw [← Bool.not_eq_true]
        intro hall
        refine h.ne_letters cs hne ?_ ha
        intro c hc
        exact mem_optionLetters (List.all_eq_true.mp hall c hc)
      simp only [Grammar.option?, takesCommand_grammar, Bool.true_and, hunknown, Bool.not_false,
        if_true]

theorem readFrom_command {a : String} (h : s.settle = .ok o) (ha : BeginsCommand a) :
    grammar.readFrom s (a :: as) = .ok (o, a :: as) :=
  Grammar.readFrom_command takesCommand_grammar h ha.ne_dashes (option?_of_beginsCommand ha s)

/-- An option in any spelling is recorded, once the next argument is looked at. -/
theorem exists_readFrom_spelling (x : Spelling) (as : List String) (h : s.settle = .ok o)
    (hnew : ∀ c ∈ x.choices, o.has c.1 = false)
    (hvalue : ∀ c ∈ x.choices, c.1.takesValue → IsValue c.2) :
    ∃ t : State, t.settle = .ok (o.recordAll x.choices) ∧
      grammar.readFrom s (x.arguments ++ as) = grammar.readFrom t as := by
  cases x with
  | root value =>
      exact Grammar.exists_readFrom_next rfl (Grammar.option?_next (k := .root) rfl rfl h)
        (hnew _ (.head _)) (hvalue _ (.head _) rfl)
  | rootEquals value =>
      have hshape : Shape.of ("--root=" ++ value).toList =
          .long ['r', 'o', 'o', 't'] (some value.toList) := by
        rw [String.toList_append]
        rfl
      exact Grammar.exists_readFrom_done hshape
        (Grammar.option?_equals rfl rfl h (hnew _ (.head _)) (hvalue _ (.head _) rfl))
  | config value =>
      exact Grammar.exists_readFrom_next rfl (Grammar.option?_next (k := .config) rfl rfl h)
        (hnew _ (.head _)) (hvalue _ (.head _) rfl)
  | configEquals value =>
      have hshape : Shape.of ("--config=" ++ value).toList =
          .long ['c', 'o', 'n', 'f', 'i', 'g'] (some value.toList) := by
        rw [String.toList_append]
        rfl
      exact Grammar.exists_readFrom_done hshape
        (Grammar.option?_equals rfl rfl h (hnew _ (.head _)) (hvalue _ (.head _) rfl))
  | configLetter value =>
      have hoption : grammar.option? s (.letters ['c']) = some (grammar.takeLetters s ['c']) :=
        Grammar.option?_letters rfl s
      rw [Grammar.takeLetters_next (k := .config) rfl rfl h] at hoption
      exact Grammar.exists_readFrom_next rfl hoption (hnew _ (.head _)) (hvalue _ (.head _) rfl)
  | verbose =>
      exact Grammar.exists_readFrom_done rfl
        (Grammar.option?_switch (k := .verbose) rfl rfl (by decide) h (hnew _ (.head _)))
  | verboseLetter =>
      have hoption : grammar.option? s (.letters ['v']) = some (grammar.takeLetters s ['v']) :=
        Grammar.option?_letters rfl s
      rw [Grammar.takeLetters_switch (k := .verbose) rfl rfl (by decide) h (hnew _ (.head _))]
        at hoption
      exact Grammar.exists_readFrom_done rfl hoption
  | verboseConfigLetters value =>
      have hoption : grammar.option? s (.letters ['v', 'c']) =
          some (grammar.takeLetters s ['v', 'c']) := Grammar.option?_letters rfl s
      rw [Grammar.takeLetters_switch (k := .verbose) rfl rfl (by decide) h (hnew _ (.head _)),
        Grammar.takeLetters_next (k := .config) rfl rfl rfl] at hoption
      have hconfig : (o.record .verbose "").has .config = false :=
        hnew (.config, value) (.tail _ (.head _))
      exact Grammar.exists_readFrom_next rfl hoption hconfig (hvalue _ (.tail _ (.head _)) rfl)
  | dryRun =>
      exact Grammar.exists_readFrom_done rfl
        (Grammar.option?_switch (k := .dryRun) rfl rfl (by decide) h (hnew _ (.head _)))
  | jsonLogs =>
      exact Grammar.exists_readFrom_done rfl
        (Grammar.option?_switch (k := .jsonLogs) rfl rfl (by decide) h (hnew _ (.head _)))

/-- Options that are spelled one after the other are all recorded, in order. -/
theorem exists_readFrom_spellings (xs : List Spelling) (as : List String) (h : s.settle = .ok o)
    (hnew : ∀ c ∈ xs.flatMap Spelling.choices, o.has c.1 = false)
    (hnodup : ((xs.flatMap Spelling.choices).map Prod.fst).Nodup)
    (hvalue : ∀ c ∈ xs.flatMap Spelling.choices, c.1.takesValue → IsValue c.2) :
    ∃ t : State, t.settle = .ok (o.recordAll (xs.flatMap Spelling.choices)) ∧
      grammar.readFrom s (xs.flatMap Spelling.arguments ++ as) = grammar.readFrom t as := by
  -- An option that waits for its value is settled by what comes next, so the state is known only up
  -- to what it settles to.
  induction xs generalizing s o with
  | nil => exact ⟨s, h, rfl⟩
  | cons x xs ih =>
      simp only [List.flatMap_cons, List.mem_append, List.map_append, List.nodup_append] at *
      obtain ⟨t, ht, hread⟩ := exists_readFrom_spelling x (xs.flatMap Spelling.arguments ++ as) h
        (fun c hc => hnew c (.inl hc)) (fun c hc => hvalue c (.inl hc))
      have hrest : ∀ c ∈ xs.flatMap Spelling.choices,
          (o.recordAll x.choices).has c.1 = false := by
        intro c hc
        rw [Options.has_recordAll, hnew c (.inr hc)]
        intro hx
        exact hnodup.2.2 _ hx _ (List.mem_map_of_mem hc) rfl
      obtain ⟨u, hu, hreads⟩ := ih ht hrest hnodup.2.1 (fun c hc => hvalue c (.inr hc))
      refine ⟨u, ?_, ?_⟩
      · rw [Options.recordAll_append]
        exact hu
      · rw [List.append_assoc, hread, hreads]

theorem isValue_of_mem_choices (hroot : ∀ v, o.root = some v → IsValue v)
    (hconfig : ∀ v, o.config = some v → IsValue v) {c : Setting × String} (hc : c ∈ o.choices)
    (htakes : c.1.takesValue) : IsValue c.2 := by
  have hswitch : ∀ k on, k.takesValue = false → c ∉ Options.switch k on := by
    intro k on hk hmem
    cases on with
    | false => simp [Options.switch] at hmem
    | true =>
        obtain rfl := List.mem_singleton.mp hmem
        exact absurd htakes (by simp [hk])
  simp only [Options.choices, List.mem_append, List.mem_map, Option.mem_toList] at hc
  rcases hc with (((⟨v, hv, rfl⟩ | ⟨v, hv, rfl⟩) | hc) | hc) | hc
  · exact hroot v hv
  · exact hconfig v hv
  · exact absurd hc (hswitch _ _ rfl)
  · exact absurd hc (hswitch _ _ rfl)
  · exact absurd hc (hswitch _ _ rfl)

/-- Options in any spelling and any order are read as they were chosen, with the defaults for those
left out, and what follows is the command as it stands: all of it after two dashes alone, and all of
it without them when its first argument is no option. -/
theorem options_then_command {xs : List Spelling} {command : List String}
    (hspelled : (xs.flatMap Spelling.choices).Perm o.choices)
    (hroot : ∀ v, o.root = some v → IsValue v) (hconfig : ∀ v, o.config = some v → IsValue v)
    (hcommand : command ≠ []) :
    read (xs.flatMap Spelling.arguments ++ "--" :: command) =
        .ok ⟨o.root.getD ".", o.config, o.dryRun, o.verbose, o.jsonLogs, command⟩ ∧
      ((∀ first ∈ command.head?, BeginsCommand first) →
        read (xs.flatMap Spelling.arguments ++ command) =
          .ok ⟨o.root.getD ".", o.config, o.dryRun, o.verbose, o.jsonLogs, command⟩) := by
  have hsettled : ({} : State).settle = .ok {} := rfl
  have hnew : ∀ c ∈ xs.flatMap Spelling.choices, ({} : Options).has c.1 = false := by
    intro c hc
    cases c.1 <;> rfl
  have hnodup := (hspelled.map Prod.fst).nodup_iff.mpr (Options.nodup_choices o)
  have hvalue : ∀ c ∈ xs.flatMap Spelling.choices, c.1.takesValue → IsValue c.2 :=
    fun c hc => isValue_of_mem_choices hroot hconfig (hspelled.subset hc)
  have hread : ∀ as, (∀ t : State, t.settle = .ok { o with json := false } →
      grammar.readFrom t as = .ok ({ o with json := false }, command)) →
      read (xs.flatMap Spelling.arguments ++ as) =
        .ok ⟨o.root.getD ".", o.config, o.dryRun, o.verbose, o.jsonLogs, command⟩ := by
    intro as hend
    obtain ⟨t, ht, hreads⟩ := exists_readFrom_spellings xs as hsettled hnew hnodup hvalue
    rw [Options.recordAll_of_perm hspelled] at ht
    rw [read, Grammar.read, hreads, hend t ht]
    rfl
  constructor
  · exact hread _ fun t ht => Grammar.readFrom_dashes takesCommand_grammar ht hcommand
  · intro hfirst
    obtain ⟨first, rest, rfl⟩ := List.exists_cons_of_ne_nil hcommand
    exact hread _ fun t ht => readFrom_command ht (hfirst first rfl)

theorem beginsCommand_unknownLetters : BeginsCommand "-vx" where
  ne_dashes := by decide
  ne_long := by
    intro name _
    have hsecond : "-vx".toList[1]? = some 'v' := rfl
    constructor
    · intro h
      rw [h, String.toList_append] at hsecond
      exact absurd hsecond (by simp)
    · intro value h
      rw [h, String.toList_append, String.toList_append, String.toList_append] at hsecond
      exact absurd hsecond (by simp)
  ne_letters := by
    intro letters _ hletters h
    have hlist : letters = ['v', 'x'] := (List.cons.inj h).2.symm
    exact absurd (hletters 'x' (by simp [hlist])) (by decide)

/-- Letters together, a value with an equals sign, and a command that looks like options. -/
theorem lookalike_command :
    BeginsCommand "-vx" ∧
      read ["-vc", "ci run.toml", "--json-logs", "--root=a=b", "--", "-vx", "--", "--root"] =
        .ok ⟨"a=b", some "ci run.toml", false, true, true, ["-vx", "--", "--root"]⟩ ∧
      read ["-vc", "ci run.toml", "--json-logs", "--root=a=b", "-vx", "--", "--root"] =
        .ok ⟨"a=b", some "ci run.toml", false, true, true, ["-vx", "--", "--root"]⟩ := by
  have hspelled : ([Spelling.verboseConfigLetters "ci run.toml", .jsonLogs,
      .rootEquals "a=b"].flatMap Spelling.choices).Perm
      ({ root := "a=b", config := "ci run.toml", verbose := true, jsonLogs := true } :
        Options).choices := by
    decide
  have hcommand : ["-vx", "--", "--root"] ≠ [] := by simp
  obtain ⟨hdashes, hplain⟩ := options_then_command hspelled
    (by rintro v ⟨⟩; exact ⟨by decide, by decide⟩) (by rintro v ⟨⟩; exact ⟨by decide, by decide⟩)
    hcommand
  refine ⟨beginsCommand_unknownLetters, hdashes, hplain ?_⟩
  rintro first ⟨⟩
  exact beginsCommand_unknownLetters

end SweepArguments

end PackageSweep
