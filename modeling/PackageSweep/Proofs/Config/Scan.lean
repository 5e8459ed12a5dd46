import Mathlib.Algebra.Order.BigOperators.Group.List
import Mathlib.Algebra.Order.Group.Nat
import PackageSweep.Proofs.Config.Expansion

/-!
# Substitution as one scan

One scan from left to right cuts a text into references and single characters: where a reference
begins it is taken as a whole, and everywhere else one character is. Substitution puts the value of
each reference in its place and keeps the rest. The parts are told from the text alone, so no value
is ever scanned.
-/

namespace PackageSweep.Config

/-- A part of a text. -/
inductive Part where
  | char (c : Char)
  | reference (name : List Char)

/-- The text of the variable with exactly this name, if there is one and it is a text. -/
def exactText? (env : Environment) (name : List Char) : Option (List Char) :=
  (env.named? (String.ofList name)).bind Utf8.decode

namespace Part

def written : Part → List Char
  | .char c => [c]
  | .reference name => braced name

/-- What is put in the place of a part. -/
def value (env : Environment) : Part → List Char
  | .char c => [c]
  | .reference name => (exactText? env name).getD (braced name)

end Part

/-- A text that can be the name in a reference. -/
def IsReferenceName (name : List Char) : Prop := name ≠ [] ∧ '\x7d' ∉ name

def BeginsReference (cs : List Char) : Prop :=
  ∃ name rest, IsReferenceName name ∧ cs = braced name ++ rest

/-- The scan cuts a text into these parts. -/
inductive Cut : List Char → List Part → Prop
  | done : Cut [] []
  | reference {name rest : List Char} {ps : List Part} (hname : IsReferenceName name)
      (h : Cut rest ps) : Cut (braced name ++ rest) (.reference name :: ps)
  | char {c : Char} {rest : List Char} {ps : List Part} (hnot : ¬ BeginsReference (c :: rest))
      (h : Cut rest ps) : Cut (c :: rest) (.char c :: ps)

variable {env : Environment} {c : Char} {cs name rest : List Char} {ps qs : List Part}

/-! ## The parts of a text -/

theorem braced_append (name rest : List Char) :
    braced name ++ rest = '$' :: '\x7b' :: (name ++ '\x7d' :: rest) := by
  simp [braced]

/-- The name of a reference ends at the first closing brace. -/
theorem braced_append_inj {name' rest' : List Char} (hname : IsReferenceName name)
    (hname' : IsReferenceName name') (h : braced name ++ rest = braced name' ++ rest') :
    name = name' ∧ rest = rest' := by
  rw [braced_append, braced_append, List.cons.injEq, List.cons.injEq] at h
  have htake : ∀ {xs ys : List Char}, '\x7d' ∉ xs →
      (xs ++ '\x7d' :: ys).takeWhile (· != '\x7d') = xs := by
    intro xs ys hxs
    have hall : ∀ x ∈ xs, (x != '\x7d') = true := by
      intro x hx
      rw [bne_iff_ne]
      rintro rfl
      exact hxs hx
    rw [List.takeWhile_append_of_pos hall]
    simp
  have heq : name = name' := by rw [← htake hname.2, h.2.2, htake hname'.2]
  subst heq
  exact ⟨rfl, by simpa using h.2.2⟩

theorem exists_cut (cs : List Char) : ∃ ps, Cut cs ps := by
  induction hn : cs.length using Nat.strongRecOn generalizing cs with
  | ind n ih =>
      subst hn
      by_cases hbegins : BeginsReference cs
      · obtain ⟨name, rest, hname, rfl⟩ := hbegins
        obtain ⟨ps, hps⟩ := ih rest.length (by simp [braced]; omega) rest rfl
        exact ⟨_, .reference hname hps⟩
      · cases cs with
        | nil => exact ⟨_, .done⟩
        | cons c rest =>
            obtain ⟨ps, hps⟩ := ih rest.length (by simp) rest rfl
            exact ⟨_, .char hbegins hps⟩

theorem Cut.unique (h : Cut cs ps) (h' : Cut cs qs) : ps = qs := by
  induction h generalizing qs with
  | done => cases h' with
    | done => rfl
  | @reference name rest ps hname h ih =>
      generalize htext : braced name ++ rest = text at h'
      cases h' with
      | done => simp [braced] at htext
      | reference hname' h' =>
          obtain ⟨rfl, rfl⟩ := braced_append_inj hname hname' htext
          rw [ih h']
      | char hnot h' => exact absurd ⟨name, rest, hname, htext.symm⟩ hnot
  | @char c rest ps hnot h ih =>
      generalize htext : c :: rest = text at h'
      cases h' with
      | done => simp at htext
      | @reference name' rest' _ hname' h' => exact absurd ⟨name', rest', hname', htext⟩ hnot
      | char hnot' h' =>
          obtain ⟨rfl, rfl⟩ := List.cons.inj htext
          rw [ih h']

/-- No character is lost. -/
theorem Cut.flatMap_written (h : Cut cs ps) : ps.flatMap Part.written = cs := by
  induction h with
  | done => rfl
  | reference hname h ih => rw [List.flatMap_cons, ih]; rfl
  | char hnot h ih => rw [List.flatMap_cons, ih]; rfl

theorem Cut.isReferenceName (h : Cut cs ps) (hmem : Part.reference name ∈ ps) :
    IsReferenceName name := by
  induction h with
  | done => simp at hmem
  | reference hname h ih =>
      rcases List.mem_cons.mp hmem with heq | hmem
      · rwa [Part.reference.inj heq]
      · exact ih hmem
  | char hnot h ih =>
      rcases List.mem_cons.mp hmem with heq | hmem
      · simp at heq
      · exact ih hmem

/-! ## The scan and the substitution -/

/-- What the substitution puts in the place of a part. -/
def Part.found (env : Environment) : Part → List Char
  | .char c => [c]
  | .reference name => Config.reference env name

theorem expandFrom_name (reversed : List Char) (hname : '\x7d' ∉ name) :
    expandFrom env (.name reversed) (name ++ '\x7d' :: rest) =
      reference env (reversed.reverse ++ name) ++ expandFrom env .plain rest := by
  induction name generalizing reversed with
  | nil => rw [List.nil_append, expandFrom, if_pos rfl, List.append_nil]
  | cons c name ih =>
      rw [List.mem_cons, not_or] at hname
      rw [List.cons_append, expandFrom, if_neg (Ne.symm hname.1), ih _ hname.2]
      simp

/-- A reference is replaced as a whole, and the scan goes on after it. -/
theorem expandFrom_braced (hname : IsReferenceName name) :
    expandFrom env .plain (braced name ++ rest) =
      reference env name ++ expandFrom env .plain rest := by
  have hopens : (name ++ '\x7d' :: rest).head? ≠ some '\x7d' ∧ closes (name ++ '\x7d' :: rest) := by
    obtain ⟨hne, hbrace⟩ := hname
    obtain ⟨c, name, rfl⟩ := List.exists_cons_of_ne_nil hne
    rw [List.mem_cons, not_or] at hbrace
    exact ⟨by simpa using Ne.symm hbrace.1, by simp [closes]⟩
  rw [braced_append, expandFrom, if_pos rfl, expandFrom, if_pos ⟨rfl, hopens⟩,
    expandFrom_name [] hname.2]
  rfl

/-- Where no reference begins, one character is kept. -/
theorem expandFrom_cons (hnot : ¬ BeginsReference (c :: rest)) :
    expandFrom env .plain (c :: rest) = c :: expandFrom env .plain rest := by
  by_cases hc : c = '$'
  · subst hc
    rw [expandFrom, if_pos rfl]
    cases rest with
    | nil => simp [expandFrom, Scan.written]
    | cons d rest =>
        have hclosed : ¬ (d = '\x7b' ∧ rest.head? ≠ some '\x7d' ∧ closes rest) := by
          rintro ⟨rfl, hhead, hcloses⟩
          obtain ⟨name, after, rfl, hname⟩ :=
            List.eq_append_cons_of_mem (List.contains_iff_mem.mp hcloses)
          refine hnot ⟨name, after, ⟨?_, hname⟩, (braced_append name after).symm⟩
          rintro rfl
          exact hhead rfl
        conv_lhs => rw [expandFrom, if_neg hclosed]
        conv_rhs => rw [expandFrom]
        split <;> rfl
  · rw [expandFrom, if_neg hc]

theorem Cut.expandFrom_eq (h : Cut cs ps) (env : Environment) :
    expandFrom env .plain cs = ps.flatMap (Part.found env) := by
  induction h with
  | done => rfl
  | reference hname h ih => rw [expandFrom_braced hname, ih]; rfl
  | char hnot h ih => rw [expandFrom_cons hnot, ih]; rfl

theorem reference_eq_getD (env : Environment) (name : List Char) :
    Config.reference env name =
      ((env.bytes? (String.ofList name)).bind Utf8.decode).getD (braced name) := by
  rw [Config.reference, Environment.text?]
  cases (env.bytes? (String.ofList name)).bind Utf8.decode with
  | none => rfl
  | some cs => exact String.toList_ofList

/-- The value of a reference is that of the variable with its name, unless the name misleads. -/
theorem Part.found_eq_value (henv : env.Proper) {p : Part}
    (h : ∀ name, p = .reference name → name ≠ [] ∧ ¬ Environment.Misleads name) :
    p.found env = p.value env := by
  cases p with
  | char c => rfl
  | reference name =>
      obtain ⟨hne, hmisleads⟩ := h name rfl
      rw [found, value, reference_eq_getD, exactText?, Environment.bytes?_eq_named? henv]
      · intro hempty
        exact hne (by simpa using congrArg String.toList hempty)
      · rwa [String.toList_ofList]

theorem Cut.expand_eq {text : String} (h : Cut text.toList ps) (henv : env.Proper)
    (hps : ∀ name, Part.reference name ∈ ps → ¬ Environment.Misleads name) :
    (expand env text).toList = ps.flatMap (Part.value env) := by
  rw [expand, String.toList_ofList, h.expandFrom_eq]
  refine List.flatMap_congr fun p hp => Part.found_eq_value henv ?_
  rintro name rfl
  exact ⟨(h.isReferenceName hp).1, hps name hp⟩

/-! ## Names that mislead -/

/-- An environment in which a name with an equals sign finds the variable before the sign, with
nothing left of its value. -/
def misleading (key rest : List Char) : Environment :=
  ⟨[(String.ofList key, Utf8.encode (rest ++ ['=']))]⟩

theorem proper_misleading {key : List Char} (hkey : Environment.isName (String.ofList key))
    (hrest : '\x00' ∉ rest) : (misleading key rest).Proper where
  isName := by simpa [misleading] using hkey
  zero_notMem := by simpa [misleading, Utf8.zero_mem_encode_iff] using hrest

theorem written_misleading (key rest : List Char) :
    Environment.written (String.ofList key) (Utf8.encode (rest ++ ['='])) =
      Environment.written (String.ofList (key ++ '=' :: rest)) [] := by
  rw [Environment.written_eq, Environment.written_eq, List.append_nil, ← Utf8.encode_append]
  simp

theorem found_misleading (key rest : List Char) :
    (Part.reference (key ++ '=' :: rest)).found (misleading key rest) = [] := by
  have hvalue : Environment.valueIn? (String.ofList (key ++ '=' :: rest))
      (String.ofList key, Utf8.encode (rest ++ ['='])) = some [] := by
    simp [Environment.valueIn?, written_misleading]
  have hbytes : (misleading key rest).bytes? (String.ofList (key ++ '=' :: rest)) = some [] := by
    rw [Environment.bytes?, if_neg (by simp), misleading, List.findSome?_cons, hvalue]
  rw [Part.found, reference_eq_getD, hbytes]
  rfl

theorem value_misleading (key rest : List Char) :
    (Part.reference (key ++ '=' :: rest)).value (misleading key rest) =
      braced (key ++ '=' :: rest) := by
  have hne : String.ofList (key ++ '=' :: rest) ≠ String.ofList key := by
    intro heq
    have hlength := congrArg (fun s => s.toList.length) heq
    simp at hlength
  have hnamed : (misleading key rest).named? (String.ofList (key ++ '=' :: rest)) = none := by
    rw [Environment.named?, misleading, List.lookup_cons, beq_false_of_ne hne]
    rfl
  rw [Part.value, exactText?, hnamed]
  rfl

/-- Any other name that is replaced differently in this environment misleads too, and is shorter. -/
theorem shorter_of_found_ne_value {key : List Char} (hkey : Environment.isName (String.ofList key))
    (hrest : '\x00' ∉ rest) (hname : name ≠ []) (hne : name ≠ key ++ '=' :: rest)
    (h : (Part.reference name).found (misleading key rest) ≠
      (Part.reference name).value (misleading key rest)) :
    Environment.Misleads name ∧ name.length < (key ++ '=' :: rest).length := by
  have hmisleads : Environment.Misleads name := by
    by_contra hnot
    refine h (Part.found_eq_value (proper_misleading hkey hrest) ?_)
    rintro _ ⟨⟩
    exact ⟨hname, hnot⟩
  refine ⟨hmisleads, ?_⟩
  cases hvalue : Environment.valueIn? (String.ofList name)
      (String.ofList key, Utf8.encode (rest ++ ['='])) with
  | none =>
      -- Nothing is found, so the reference stays as it is written.
      have hbytes : (misleading key rest).bytes? (String.ofList name) = none := by
        rw [Environment.bytes?, if_neg (by simpa using hname), misleading, List.findSome?_cons,
          hvalue]
        rfl
      have hkey : String.ofList name ≠ String.ofList key := by
        intro heq
        rw [heq, Environment.valueIn?_self] at hvalue
        simp at hvalue
      have hnamed : (misleading key rest).named? (String.ofList name) = none := by
        rw [Environment.named?, misleading, List.lookup_cons, beq_false_of_ne hkey]
        rfl
      refine absurd ?_ h
      rw [Part.found, reference_eq_getD, hbytes, Part.value, exactText?, hnamed]
  | some bytes =>
      have hprefix := Environment.written_isPrefix_of_valueIn? hvalue
      rw [written_misleading, Environment.written_eq, Environment.written_eq, List.append_nil,
        List.append_nil, String.toList_ofList, String.toList_ofList] at hprefix
      rcases List.prefix_concat_iff.mp (Utf8.isPrefix_of_encode hprefix) with heq | hle
      · exact absurd (List.append_cancel_right heq) hne
      · have hlength := hle.length_le
        rw [List.length_append] at hlength
        exact hlength

/-- Parts among which a name misleads are replaced differently in some environment. The shortest
such name is followed: where it finds nothing more of a value, no other part is replaced
differently. -/
theorem exists_found_ne_value (hps : ∀ n, Part.reference n ∈ ps → n ≠ [])
    (hmem : Part.reference name ∈ ps) (hmisleads : Environment.Misleads name) :
    ∃ env : Environment, env.Proper ∧
      ps.flatMap (Part.found env) ≠ ps.flatMap (Part.value env) := by
  induction hn : name.length using Nat.strongRecOn generalizing name with
  | ind n ih =>
      subst hn
      obtain ⟨key, rest, hkey, hrest, rfl⟩ := hmisleads
      by_cases hothers : ∀ p ∈ ps, p ≠ .reference (key ++ '=' :: rest) →
          p.found (misleading key rest) = p.value (misleading key rest)
      · refine ⟨misleading key rest, proper_misleading hkey hrest, ?_⟩
        have hlt : (ps.map fun p => (p.found (misleading key rest)).length).sum <
            (ps.map fun p => (p.value (misleading key rest)).length).sum := by
          refine List.sum_lt_sum _ _ ?_ ⟨_, hmem, ?_⟩
          · intro p hp
            by_cases heq : p = .reference (key ++ '=' :: rest)
            · rw [heq, found_misleading]
              exact Nat.zero_le _
            · rw [hothers p hp heq]
          · rw [found_misleading, value_misleading]
            exact Nat.zero_lt_succ _
        rw [← List.length_flatMap, ← List.length_flatMap] at hlt
        intro heq
        rw [heq] at hlt
        exact Nat.lt_irrefl _ hlt
      · simp only [not_forall] at hothers
        obtain ⟨p, hp, hne, hdiffers⟩ := hothers
        cases p with
        | char c => exact absurd rfl hdiffers
        | reference other =>
            have hne' : other ≠ key ++ '=' :: rest := fun heq => hne (congrArg _ heq)
            obtain ⟨hother, hshorter⟩ :=
              shorter_of_found_ne_value hkey hrest (hps other hp) hne' hdiffers
            exact ih _ hshorter hp hother rfl

/-- One scan cuts every text in exactly one way, and substitution gives what the scan gives, in
every environment, if and only if no name in the scan misleads. Then a text in which no variable is
named that is set to a text stays as it is. -/
theorem expand_scan (text : String) :
    ∃ ps, Cut text.toList ps ∧ (∀ qs, Cut text.toList qs → qs = ps) ∧
      ps.flatMap Part.written = text.toList ∧
      ((∀ env : Environment, env.Proper →
          (expand env text).toList = ps.flatMap (Part.value env)) ↔
        ∀ name, Part.reference name ∈ ps → ¬ Environment.Misleads name) ∧
      ∀ env : Environment, env.Proper →
        (∀ name, Part.reference name ∈ ps →
          ¬ Environment.Misleads name ∧ exactText? env name = none) →
        expand env text = text := by
  obtain ⟨ps, hps⟩ := exists_cut text.toList
  refine ⟨ps, hps, fun qs hqs => hqs.unique hps, hps.flatMap_written, ⟨?_, ?_⟩, ?_⟩
  · intro hall name hmem hmisleads
    obtain ⟨env, henv, hne⟩ :=
      exists_found_ne_value (fun n hn => (hps.isReferenceName hn).1) hmem hmisleads
    refine hne ?_
    rw [← hall env henv, expand, String.toList_ofList, hps.expandFrom_eq]
  · intro hnames env henv
    exact hps.expand_eq henv hnames
  · intro env henv hnames
    have hkept : ∀ p ∈ ps, p.value env = p.written := by
      intro p hp
      cases p with
      | char c => rfl
      | reference name =>
          rw [Part.value, (hnames name hp).2]
          rfl
    apply String.toList_injective
    rw [hps.expand_eq henv fun name hmem => (hnames name hmem).1, List.flatMap_congr hkept,
      hps.flatMap_written]

theorem not_beginsReference_of_ne (h : c ≠ '$') : ¬ BeginsReference (c :: rest) := by
  rintro ⟨name, after, -, heq⟩
  rw [braced_append] at heq
  exact h (List.cons.inj heq).1

/-- Dollar signs and braces before and after a reference. -/
def nested : String := "$$\x7bA\x7d\x7d$\x7b\x7d"

def nestedParts : List Part :=
  [.char '$', .reference ['A'], .char '\x7d', .char '$', .char '\x7b', .char '\x7d']

theorem cut_nested : Cut nested.toList nestedParts := by
  have htext : nested.toList = '$' :: (braced ['A'] ++ ['\x7d', '$', '\x7b', '\x7d']) := by
    decide +kernel
  have hdollar : ¬ BeginsReference ('$' :: (braced ['A'] ++ ['\x7d', '$', '\x7b', '\x7d'])) := by
    rintro ⟨name, after, -, heq⟩
    simp [braced] at heq
  have hempty : ¬ BeginsReference ['$', '\x7b', '\x7d'] := by
    rintro ⟨name, after, ⟨hne, hbrace⟩, heq⟩
    obtain ⟨c, name, rfl⟩ := List.exists_cons_of_ne_nil hne
    rw [braced_append] at heq
    simp only [List.cons_append, List.cons.injEq] at heq
    exact hbrace (by simp [← heq.2.2.1])
  rw [htext]
  refine .char hdollar (.reference ⟨by simp, by simp⟩ ?_)
  refine .char (not_beginsReference_of_ne (by decide)) (.char hempty ?_)
  exact .char (not_beginsReference_of_ne (by decide))
    (.char (not_beginsReference_of_ne (by decide)) .done)

/-- A value that looks like a reference is left alone, and so is the text where nothing is set. -/
theorem nested_expand :
    (expand ⟨[("A", Utf8.ofString "$\x7bB\x7d\n"), ("B", Utf8.ofString "b")]⟩ nested).toList =
        "$$\x7bB\x7d\n\x7d$\x7b\x7d".toList ∧
      expand ⟨[("B", Utf8.ofString "b")]⟩ nested = nested := by
  obtain ⟨ps, -, hunique, -, hvalue, hunset⟩ := expand_scan nested
  obtain rfl := hunique _ cut_nested
  have hmisleads : ∀ name, Part.reference name ∈ nestedParts → ¬ Environment.Misleads name := by
    rintro name hmem ⟨key, rest, -, -, rfl⟩
    simp [nestedParts] at hmem
    have hequals : '=' ∈ ['A'] := by simp [← hmem]
    exact absurd hequals (by decide)
  constructor
  · rw [hvalue.mpr hmisleads _ ⟨by decide +kernel, by decide +kernel⟩]
    decide +kernel
  · refine hunset _ ⟨by decide +kernel, by decide +kernel⟩ fun name hmem => ?_
    refine ⟨hmisleads name hmem, ?_⟩
    have hname : name = ['A'] := by simpa [nestedParts] using hmem
    rw [hname]
    decide +kernel

/-- No variable has the name of this reference, but another one is found by it. -/
theorem unset_name_replaced :
    (⟨[("A", Utf8.ofString "B=x")]⟩ : Environment).Proper ∧
      Environment.named? ⟨[("A", Utf8.ofString "B=x")]⟩ "A=B" = none ∧
      Cut "$\x7bA=B\x7d".toList [.reference ['A', '=', 'B']] ∧
      [Part.reference ['A', '=', 'B']].flatMap (Part.value ⟨[("A", Utf8.ofString "B=x")]⟩) =
        "$\x7bA=B\x7d".toList ∧
      expand ⟨[("A", Utf8.ofString "B=x")]⟩ "$\x7bA=B\x7d" = "x" := by
  refine ⟨⟨by decide +kernel, by decide +kernel⟩, by decide +kernel, ?_, by decide +kernel,
    by decide +kernel⟩
  have htext : "$\x7bA=B\x7d".toList = braced ['A', '=', 'B'] ++ [] := by decide +kernel
  rw [htext]
  exact .reference ⟨by simp, by simp⟩ .done

end PackageSweep.Config
