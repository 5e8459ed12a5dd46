import PackageSweep.Text.Spans
import PackageSweep.Text.Table.GraphemeExtend
import PackageSweep.Text.Table.Unprinted

/-!
# Quoted texts

A text shown between double quotes, for people to read: quotes, backslashes and the usual controls
have short escapes, and any other character that has no printed form of its own is shown by its
code point.
-/

namespace PackageSweep.Text

def hexNumeral (n : Nat) : List Char := Nat.toDigits 16 n

/-- Which quotes are escaped inside a quoted text besides the double quote. -/
inductive Quoting where
  | doubleOnly
  | both
  deriving DecidableEq

def codePointEscape (c : Char) : List Char :=
  ['\\', 'u', '\x7b'] ++ hexNumeral c.toNat ++ ['\x7d']

/-- Whether a character joins the one before it or has no printed form. -/
def needsCodePoint (c : Char) : Bool :=
  inSpans c.toNat Table.graphemeExtend || inSpans c.toNat Table.unprinted

def quotedChar (q : Quoting) (c : Char) : List Char :=
  if c = '\x00' then ['\\', '0']
  else if c = '\t' then ['\\', 't']
  else if c = '\r' then ['\\', 'r']
  else if c = '\n' then ['\\', 'n']
  else if c = '\\' ∨ c = '"' ∨ (c = '\'' ∧ q = .both) then ['\\', c]
  else if needsCodePoint c then codePointEscape c
  else [c]

def quoted (q : Quoting) (cs : List Char) : List Char :=
  '"' :: (cs.flatMap (quotedChar q) ++ ['"'])

end PackageSweep.Text
