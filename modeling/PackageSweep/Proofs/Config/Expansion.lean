import PackageSweep.Config.Load
import PackageSweep.Proofs.World.Environment

/-!
# What the environment does to a configuration

A text is expanded alike in two environments that give the same values to the names of its
references. So a variable matters to the configuration only when the file that was chosen refers to
it.
-/

namespace PackageSweep.Config

variable {env env' : Environment} {key : String}

/-- A reference as it is written. -/
def braced (name : List Char) : List Char := '$' :: '\x7b' :: (name ++ ['\x7d'])

/-- Both environments give the same value to every name that the text refers to. -/
def AgreeOn (env env' : Environment) (cs : List Char) : Prop :=
  ∀ name, braced name <:+: cs → env.text? (String.ofList name) = env'.text? (String.ofList name)

/-- The text has a reference whose name finds the variable with this key. -/
def Refers (key : String) (cs : List Char) : Prop :=
  ∃ name, braced name <:+: cs ∧ Environment.AnswersTo key (String.ofList name)

theorem AgreeOn.of_infix {cs ds : List Char} (h : AgreeOn env env' ds) (hle : cs <:+: ds) :
    AgreeOn env env' cs := by
  intro name hname
  exact h name (hname.trans hle)

theorem AgreeOn.tail {c : Char} {cs : List Char} (h : AgreeOn env env' (c :: cs)) :
    AgreeOn env env' cs := h.of_infix (List.suffix_cons c cs).isInfix

theorem agreeOn_of_not_refers {cs : List Char} (hkey : '=' ∉ key.toList)
    (henv : env.unset key = env'.unset key) (h : ¬ Refers key cs) : AgreeOn env env' cs := by
  intro name hname
  apply Environment.text?_congr hkey henv
  intro hanswers
  exact h ⟨name, hname, hanswers⟩

/-- A text that refers to a variable holds its key. -/
theorem infix_of_refers {cs : List Char} (h : Refers key cs) : key.toList <:+: cs := by
  obtain ⟨name, hname, hanswers⟩ := h
  have hkey : key.toList <+: name := by
    rcases hanswers with heq | hle
    · refine ⟨[], ?_⟩
      rw [List.append_nil, ← heq, String.toList_ofList]
    · rw [String.toList_ofList] at hle
      exact (List.prefix_append _ _).trans hle
  have hbraced : name <:+: braced name := ⟨['$', '\x7b'], ['\x7d'], rfl⟩
  exact (hkey.isInfix.trans hbraced).trans hname

theorem reference_congr {name : List Char}
    (h : env.text? (String.ofList name) = env'.text? (String.ofList name)) :
    reference env name = reference env' name := by
  rw [reference, reference, h]

/-- What is left of a scan is expanded alike, by the recursion of the scan. The text that the
environments agree on includes what the scan has passed over. -/
theorem expandFrom_congr (scan : Scan) (cs : List Char)
    (h : AgreeOn env env' (scan.written ++ cs)) :
    expandFrom env scan cs = expandFrom env' scan cs := by
  fun_induction expandFrom env scan cs with
  | case1 scan => simp only [expandFrom]
  | case2 cs ih =>
      rw [expandFrom, if_pos rfl]
      exact ih h
  | case3 c cs hc ih =>
      rw [expandFrom, if_neg hc, ih h.tail]
  | case4 c cs hopen ih =>
      rw [expandFrom, if_pos hopen]
      obtain ⟨rfl, -⟩ := hopen
      exact ih h
  | case5 cs hnot ih =>
      rw [expandFrom, if_neg hnot, if_pos rfl, ih h.tail]
  | case6 c cs hnot hc ih =>
      rw [expandFrom, if_neg hnot, if_neg hc, ih h.tail.tail]
  | case7 reversed cs ih =>
      have hname : braced reversed.reverse <:+: (Scan.name reversed).written ++ '\x7d' :: cs := by
        refine List.IsPrefix.isInfix ⟨cs, ?_⟩
        simp [braced, Scan.written]
      have hrest : AgreeOn env env' cs :=
        h.of_infix (List.IsSuffix.isInfix ⟨(Scan.name reversed).written ++ ['\x7d'], by simp⟩)
      rw [expandFrom, if_pos rfl, reference_congr (h _ hname), ih hrest]
  | case8 reversed c cs hc ih =>
      rw [expandFrom, if_neg hc]
      apply ih
      simpa [Scan.written] using h

theorem expand_congr {text : String} (h : AgreeOn env env' text.toList) :
    expand env text = expand env' text := by
  rw [expand, expand, expandFrom_congr .plain text.toList h]

/-- The environment matters to loading only by what it does to the text of the chosen file. -/
theorem load_congr {root : String} {explicit : Option String} {w : World}
    (h : ∀ path text, Source.choose root explicit w = .file path → w.readText path = .ok text →
      expand env text = expand w.environment text) :
    load root explicit { w with environment := env } = load root explicit w := by
  have hchoose : Source.choose root explicit { w with environment := env } =
      Source.choose root explicit w := rfl
  rw [load, load, hchoose]
  cases hsource : Source.choose root explicit w with
  | builtin => rfl
  | file path =>
      have hread : World.readText { w with environment := env } path = w.readText path := rfl
      rw [ofSource, ofSource, ofFile, ofFile, hread]
      cases htext : w.readText path with
      | error cause => rfl
      | ok text =>
          simp only [ofText]
          rw [h path text hsource htext]

end PackageSweep.Config
