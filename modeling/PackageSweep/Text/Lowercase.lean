import PackageSweep.Text.Spans
import PackageSweep.Text.Table.Cased
import PackageSweep.Text.Table.CaseIgnorable
import PackageSweep.Text.Table.Lowercase

/-!
# Lower case

The full lower-case form of a text. Every character has its own form, with one exception that looks
at its neighbours: a capital sigma at the end of a word becomes a final sigma.
-/

namespace PackageSweep.Text

def isCased (c : Char) : Bool := inSpans c.toNat Table.cased

def isCaseIgnorable (c : Char) : Bool := inSpans c.toNat Table.caseIgnorable

/-- The lower-case form of a character on its own. Only the dotted capital I has a longer one. -/
def lowerChar (c : Char) : List Char :=
  if c = '\u0130' then ['i', '\u0307']
  else
    match Table.lowercase.find? (·.covers c.toNat) with
    | some r => [Char.ofNat (c.toNat + r.shift).toNat]
    | none => [c]

/-- Whether a letter follows once the marks in between are looked through. -/
def meetsLetter (cs : List Char) : Bool :=
  match cs.dropWhile isCaseIgnorable with
  | c :: _ => isCased c
  | [] => false

def lowerAfter (before : List Char) : List Char → List Char
  | [] => []
  | c :: cs =>
    (if c = 'Σ' then
      if meetsLetter before && !meetsLetter cs then ['ς'] else ['σ']
    else lowerChar c) ++ lowerAfter (c :: before) cs

def lower (cs : List Char) : List Char := lowerAfter [] cs

@[simp] theorem lower_nil : lower [] = [] := rfl

end PackageSweep.Text
