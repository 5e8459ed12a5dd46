import PackageSweep.World.Basic

/-!
# Patterns of the shell

A pattern is matched against bytes. `*` stands for any bytes, `?` for one byte, and a set between
brackets for one byte of the set. A byte that was quoted stands for itself.
-/

namespace PackageSweep.Shell

/-- A byte of an expanded word. -/
structure Glyph where
  byte : UInt8
  isQuoted : Bool
  deriving DecidableEq

def glyphs (isQuoted : Bool) (bs : Bytes) : List Glyph := bs.map (⟨·, isQuoted⟩)

def plain (gs : List Glyph) : Bytes := gs.map (·.byte)

/-- What one place of a pattern stands for. -/
inductive Matcher where
  | byte (b : UInt8)
  | any
  | many
  | set (isNegated : Bool) (ranges : List (UInt8 × UInt8))
  deriving DecidableEq

def byteOf (c : Char) : UInt8 := c.toUInt8

def Glyph.isMark (g : Glyph) (c : Char) : Bool := !g.isQuoted && g.byte == byteOf c

def classRanges (name : String) : List (Char × Char) :=
  match name with
  | "alpha" => [('a', 'z'), ('A', 'Z')]
  | "digit" => [('0', '9')]
  | "alnum" => [('a', 'z'), ('A', 'Z'), ('0', '9')]
  | "upper" => [('A', 'Z')]
  | "lower" => [('a', 'z')]
  | "space" => [(' ', ' '), ('\t', '\r')]
  | "blank" => [(' ', ' '), ('\t', '\t')]
  | "punct" => [('!', '/'), (':', '@'), ('[', '\x60'), ('\x7b', '~')]
  | "xdigit" => [('0', '9'), ('a', 'f'), ('A', 'F')]
  | "cntrl" => [('\x00', '\x1f'), ('\x7f', '\x7f')]
  | "print" => [(' ', '~')]
  | "graph" => [('!', '~')]
  | _ => []

/-- The named class at the front of a set, after its opening mark. -/
def namedClass? (gs : List Glyph) : Option (List (UInt8 × UInt8) × List Glyph) :=
  let name := gs.takeWhile fun g => (Char.ofNat g.byte.toNat).isAlpha
  match gs.drop name.length with
  | a :: b :: rest =>
    if a.isMark ':' && b.isMark ']' then
      let ranges := classRanges (String.ofList ((plain name).map fun b => Char.ofNat b.toNat))
      some (ranges.map fun (lo, hi) => (byteOf lo, byteOf hi), rest)
    else none
  | _ => none

def setRanges? : (fuel : Nat) → (isFirst : Bool) → List Glyph →
    Option (List (UInt8 × UInt8) × List Glyph)
  | 0, _, _ => none
  | _, _, [] => none
  | fuel + 1, isFirst, g :: r =>
    if g.isMark ']' && !isFirst then some ([], r)
    else
      let named := match r with
        | c :: r => if g.isMark '[' && c.isMark ':' then namedClass? r else none
        | [] => none
      match named with
      | some (ranges, r) =>
        (setRanges? fuel false r).map fun (more, rest) => (ranges ++ more, rest)
      | none =>
        match r with
        | dash :: hi :: r' =>
          if dash.isMark '-' && !hi.isMark ']' then
            (setRanges? fuel false r').map fun (more, rest) => ((g.byte, hi.byte) :: more, rest)
          else (setRanges? fuel false r).map fun (more, rest) => ((g.byte, g.byte) :: more, rest)
        | _ => (setRanges? fuel false r).map fun (more, rest) => ((g.byte, g.byte) :: more, rest)

/-- The set at the front of a pattern, after its opening bracket. -/
def set? (gs : List Glyph) : Option (Matcher × List Glyph) :=
  match gs with
  | g :: r =>
    if g.isMark '!' || g.isMark '^' then
      (setRanges? (r.length + 1) true r).map fun (ranges, rest) => (.set true ranges, rest)
    else (setRanges? (gs.length + 1) true gs).map fun (ranges, rest) => (.set false ranges, rest)
  | [] => none

def matchers : (fuel : Nat) → List Glyph → List Matcher
  | 0, _ => []
  | _, [] => []
  | fuel + 1, g :: r =>
    if g.isMark '*' then .many :: matchers fuel r
    else if g.isMark '?' then .any :: matchers fuel r
    else if g.isMark '[' then
      match set? r with
      | some (m, rest) => m :: matchers fuel rest
      | none => .byte g.byte :: matchers fuel r
    else .byte g.byte :: matchers fuel r

def Matcher.fits (m : Matcher) (b : UInt8) : Bool :=
  match m with
  | .byte c => b == c
  | .any => true
  | .many => true
  | .set isNegated ranges => isNegated != ranges.any fun (lo, hi) => lo ≤ b && b ≤ hi

def fits : List Matcher → Bytes → Bool
  | [], bs => bs.isEmpty
  | .many :: ms, [] => fits ms []
  | .many :: ms, b :: bs => fits ms (b :: bs) || fits (.many :: ms) bs
  | _ :: _, [] => false
  | m :: ms, b :: bs => m.fits b && fits ms bs
termination_by ms bs => (ms.length, bs.length)

/-- Whether a whole text fits the pattern that is written by bytes. -/
def fitsGlyphs (gs : List Glyph) (bs : Bytes) : Bool := fits (matchers gs.length gs) bs

/-- The text without a beginning that fits a pattern, or the whole text if there is none. -/
def withoutFront (longest : Bool) (gs : List Glyph) (bs : Bytes) : Bytes :=
  let lengths := List.range (bs.length + 1)
  let lengths := if longest then lengths.reverse else lengths
  match lengths.find? fun n => fitsGlyphs gs (bs.take n) with
  | some n => bs.drop n
  | none => bs

/-- The text without an end that fits a pattern, or the whole text if there is none. -/
def withoutBack (longest : Bool) (gs : List Glyph) (bs : Bytes) : Bytes :=
  let lengths := List.range (bs.length + 1)
  let lengths := if longest then lengths else lengths.reverse
  match lengths.find? fun n => fitsGlyphs gs (bs.drop n) with
  | some n => bs.take n
  | none => bs

def asksForFiles (gs : List Glyph) : Bool :=
  gs.any fun g => g.isMark '*' || g.isMark '?' || g.isMark '['

def components : List Glyph → List (List Glyph)
  | [] => [[]]
  | g :: gs =>
    match components gs with
    | [] => [[g]]
    | c :: cs => if g.byte = byteOf '/' then [] :: c :: cs else (g :: c) :: cs

def nameText (bs : Bytes) : String := String.ofList (Utf8.decodeLossy bs)

/-- The paths that continue `path` by components of a pattern and exist. -/
def filesFrom (w : World) : (path : Bytes) → List (List Glyph) → List Bytes
  | path, [] => if w.exists? (nameText path) then [path] else []
  | path, c :: cs =>
    let slash := if cs = [] then [] else [byteOf '/']
    if asksForFiles c then
      let directory := if path = [] then "." else nameText path
      match w.find directory with
      | .ok (place, .directory) =>
        let isHidden := (c.head?.any fun g => g.byte == byteOf '.')
        let names := [".", ".."] ++ w.tree.children place |>.map Utf8.ofString
        let names := names.filter fun n =>
          fitsGlyphs c n && (isHidden || n.head? != some (byteOf '.'))
        names.flatMap fun n => filesFrom w (path ++ n ++ slash) cs
      | _ => []
    else filesFrom w (path ++ plain c ++ slash) cs

/-- The paths that a word asks for, or the word itself if it asks for none that exists. -/
def files (w : World) (gs : List Glyph) : List Bytes :=
  if asksForFiles gs then
    match filesFrom w [] (components gs) with
    | [] => [plain gs]
    | paths => paths
  else [plain gs]

end PackageSweep.Shell
