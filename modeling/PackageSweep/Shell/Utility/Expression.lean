import PackageSweep.Shell.Utility.Basic

/-!
# Regular expressions

Basic regular expressions on bytes: single places, each of which may be repeated by a star, between
two optional anchors.
-/

namespace PackageSweep.Shell

/-- A place of an expression and whether it may be repeated. -/
structure Repeated where
  matcher : Matcher
  isRepeated : Bool
  deriving DecidableEq

structure Expression where
  isAnchored : Bool
  places : List Repeated
  endsLine : Bool

namespace Expression

def place : Bytes → Option (Matcher × Bytes)
  | [] => none
  | b :: r =>
    if b = byteOf '.' then some (.any, r)
    else if b = byteOf '[' then
      match set? (glyphs false r) with
      | some (m, rest) => some (m, plain rest)
      | none => some (.byte b, r)
    else if b = byteOf '\\' then
      match r with
      | c :: r => some (.byte c, r)
      | [] => some (.byte b, [])
    else some (.byte b, r)

/-- The places of an expression, and whether it ends at the end of a line. -/
def body : (fuel : Nat) → Bytes → List Repeated × Bool
  | 0, _ => ([], false)
  | fuel + 1, bs =>
    if bs = [byteOf '$'] then ([], true)
    else
      match place bs with
      | none => ([], false)
      | some (m, r) =>
        match r with
        | b :: r' =>
          if b = byteOf '*' then
            let (ps, e) := body fuel r'
            (⟨m, true⟩ :: ps, e)
          else
            let (ps, e) := body fuel r
            (⟨m, false⟩ :: ps, e)
        | [] => ([⟨m, false⟩], false)

def read (bs : Bytes) : Expression :=
  let (isAnchored, rest) := match bs with
    | b :: r => if b = byteOf '^' then (true, r) else (false, bs)
    | [] => (false, [])
  let (ps, e) := body (rest.length + 1) rest
  ⟨isAnchored, ps, e⟩

def fitsHere (endsLine : Bool) : List Repeated → Bytes → Bool
  | [], bs => !endsLine || bs.isEmpty
  | p :: ps, [] => p.isRepeated && fitsHere endsLine ps []
  | p :: ps, b :: bs =>
    if p.isRepeated then
      fitsHere endsLine ps (b :: bs) || (p.matcher.fits b && fitsHere endsLine (p :: ps) bs)
    else p.matcher.fits b && fitsHere endsLine ps bs
termination_by ps bs => (ps.length, bs.length)

def fits (e : Expression) (line : Bytes) : Bool :=
  if e.isAnchored then fitsHere e.endsLine e.places line
  else (List.range (line.length + 1)).any fun n => fitsHere e.endsLine e.places (line.drop n)

def longest? (e : Expression) (bs : Bytes) : Option Nat :=
  (List.range (bs.length + 1)).reverse.find? fun n =>
    fitsHere true e.places (bs.take n) && (!e.endsLine || n == bs.length)

end Expression

end PackageSweep.Shell
