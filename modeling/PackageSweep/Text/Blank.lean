/-!
# Blank characters

White space is the Unicode property of that name. Trimming takes it off the ends of a text.
-/

namespace PackageSweep.Text

def isBlank (c : Char) : Bool :=
  let n := c.toNat
  (0x09 ≤ n && n ≤ 0x0d) || n == 0x20 || n == 0x85 || n == 0xa0 || n == 0x1680 ||
    (0x2000 ≤ n && n ≤ 0x200a) || n == 0x2028 || n == 0x2029 || n == 0x202f || n == 0x205f ||
    n == 0x3000

def trimStart (cs : List Char) : List Char := cs.dropWhile isBlank

def trimEnd (cs : List Char) : List Char := (cs.reverse.dropWhile isBlank).reverse

def trim (cs : List Char) : List Char := trimEnd (trimStart cs)

/-- A text that holds nothing but blanks, the empty text among them. -/
def allBlank (cs : List Char) : Bool := cs.all isBlank

theorem trimStart_eq_nil_iff {cs : List Char} : trimStart cs = [] ↔ allBlank cs := by
  induction cs with
  | nil => simp [trimStart, allBlank]
  | cons c cs ih =>
      cases h : isBlank c <;> simp_all [trimStart, allBlank, List.dropWhile]

end PackageSweep.Text
