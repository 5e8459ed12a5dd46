import PackageSweep.Shell.Expansion

/-!
# Formatted output

What `echo` and `printf` write: texts with escapes, and formats with directives that take arguments.
-/

namespace PackageSweep.Shell

/-! ## Escapes -/

def isOctal (b : UInt8) : Bool := byteOf '0' ≤ b && b ≤ byteOf '7'

def octal (ds : Bytes) : UInt8 :=
  UInt8.ofNat (ds.foldl (fun n d => n * 8 + (d - byteOf '0').toNat) 0)

def letterEscape? (b : UInt8) : Option UInt8 :=
  match Char.ofNat b.toNat with
  | 'a' => some 7
  | 'b' => some 8
  | 'e' => some 27
  | 'f' => some 12
  | 'n' => some 10
  | 'r' => some 13
  | 't' => some 9
  | 'v' => some 11
  | '\\' => some 92
  | _ => none

/-- The text that escapes stand for, and whether it stops all output behind it. -/
def escaped : (fuel : Nat) → Bytes → Bytes × Bool
  | 0, _ => ([], false)
  | _, [] => ([], false)
  | _, [b] => ([b], false)
  | fuel + 1, b :: c :: r =>
    if b ≠ byteOf '\\' then
      let (bs, stops) := escaped fuel (c :: r)
      (b :: bs, stops)
    else if c = byteOf 'c' then ([], true)
    else if c = byteOf '0' then
      let ds := (r.take 3).takeWhile isOctal
      let (bs, stops) := escaped fuel (r.drop ds.length)
      (octal ds :: bs, stops)
    else
      match letterEscape? c with
      | some e =>
        let (bs, stops) := escaped fuel r
        (e :: bs, stops)
      | none =>
        let (bs, stops) := escaped fuel (c :: r)
        (b :: bs, stops)

def echoed (arguments : List Bytes) : Bytes :=
  let (endsLine, arguments) := match arguments with
    | a :: rest => if a = ascii "-n" then (false, rest) else (true, arguments)
    | [] => (true, [])
  let text := joinedWith [byteOf ' '] arguments
  let (bs, stops) := escaped (text.length + 1) text
  bs ++ if endsLine && !stops then [byteOf '\n'] else []

/-! ## Formats -/

/-- A directive of a format. -/
structure Directive where
  isLeft : Bool := false
  showsSign : Bool := false
  leavesBlank : Bool := false
  isZeroed : Bool := false
  isMarked : Bool := false
  width : Option Bytes := none
  precision : Option Bytes := none
  letter : Char

inductive Item where
  | text (bs : Bytes)
  | directive (d : Directive)
  | broken

def amount (bs : Bytes) : Bytes × Bytes :=
  match bs with
  | b :: r =>
    if b = byteOf '*' then ([b], r)
    else (bs.takeWhile fun b => byteOf '0' ≤ b && b ≤ byteOf '9',
      bs.dropWhile fun b => byteOf '0' ≤ b && b ≤ byteOf '9')
  | [] => ([], [])

def directive? (bs : Bytes) : Option (Directive × Bytes) :=
  let marks := bs.takeWhile (ascii "-+ 0#").contains
  let r := bs.drop marks.length
  let (width, r) := amount r
  let (precision, r) := match r with
    | b :: r' => if b = byteOf '.' then ((amount r').1 |> some, (amount r').2) else (none, r)
    | [] => (none, [])
  match r with
  | b :: r =>
    some ({ isLeft := marks.contains (byteOf '-')
            showsSign := marks.contains (byteOf '+')
            leavesBlank := marks.contains (byteOf ' ')
            isZeroed := marks.contains (byteOf '0')
            isMarked := marks.contains (byteOf '#')
            width := if width = [] then none else some width
            precision := precision
            letter := Char.ofNat b.toNat }, r)
  | [] => none

def items : (fuel : Nat) → Bytes → List Item
  | 0, _ => []
  | _, [] => []
  | fuel + 1, b :: r =>
    if b = byteOf '%' then
      match r with
      | c :: r' =>
        if c = byteOf '%' then .text [b] :: items fuel r'
        else
          match directive? r with
          | some (d, r') => .directive d :: items fuel r'
          | none => [.broken]
      | [] => [.broken]
    else if b = byteOf '\\' then
      match r with
      | c :: r' =>
        if isOctal c then
          let ds := (r.take 3).takeWhile isOctal
          .text [octal ds] :: items fuel (r.drop ds.length)
        else
          match letterEscape? c with
          | some e => .text [e] :: items fuel r'
          | none => .text [b] :: items fuel r
      | [] => [.text [b]]
    else .text [b] :: items fuel r

/-- The number that an argument of `printf` writes, and whether all of it was used. -/
def printfNumber (bs : Bytes) : Int × Bool :=
  let cs := Arithmetic.skipBlanks (Utf8.decodeLossy bs)
  match cs with
  | '"' :: c :: _ => (c.toNat, true)
  | '\'' :: c :: _ => (c.toNat, true)
  | _ =>
    let (isNegative, ds) := match cs with
      | '-' :: r => (true, r)
      | '+' :: r => (false, r)
      | r => (false, r)
    let sign (n : Int) : Int := if isNegative then -n else n
    match Arithmetic.numeral? ds with
    | some n => (sign n, true)
    | none =>
      let front := ds.takeWhile Char.isDigit
      (sign ((Arithmetic.numeral? front).getD 0), cs = [])

def padded (isLeft isZeroed : Bool) (width : Nat) (bs : Bytes) : Bytes :=
  let fill := width - bs.length
  if isLeft then bs ++ List.replicate fill (byteOf ' ')
  else if isZeroed then
    match bs with
    | b :: r =>
      if b = byteOf '-' || b = byteOf '+' then b :: List.replicate fill (byteOf '0') ++ r
      else List.replicate fill (byteOf '0') ++ bs
    | [] => List.replicate fill (byteOf '0')
  else List.replicate fill (byteOf ' ') ++ bs

def numberText (d : Directive) (n : Int) : Bytes :=
  let digits (base : Nat) (k : Nat) : Bytes := Utf8.encode (Nat.toDigits base k)
  let least (bs : Bytes) : Bytes :=
    match d.precision.bind count? with
    | some p => List.replicate (p - bs.length) (byteOf '0') ++ bs
    | none => bs
  let upper (bs : Bytes) : Bytes := bs.map fun b => if byteOf 'a' ≤ b then b - 32 else b
  match d.letter with
  | 'o' => (if d.isMarked then ascii "0" else []) ++ least (digits 8 (Arithmetic.bits n))
  | 'x' => (if d.isMarked then ascii "0x" else []) ++ least (digits 16 (Arithmetic.bits n))
  | 'X' => (if d.isMarked then ascii "0X" else []) ++ least (upper (digits 16 (Arithmetic.bits n)))
  | 'u' => least (digits 10 (Arithmetic.bits n))
  | _ =>
    let sign := if n < 0 then ascii "-" else if d.showsSign then ascii "+"
      else if d.leavesBlank then ascii " " else []
    sign ++ least (digits 10 n.natAbs)

/-- What a format has written so far. -/
structure Printing where
  out : Bytes := []
  arguments : List Bytes
  usesArguments : Bool := false
  troubles : List Bytes := []
  isBroken : Bool := false
  stops : Bool := false

namespace Printing

def next (p : Printing) : Option Bytes × Printing :=
  match p.arguments with
  | a :: rest => (some a, { p with arguments := rest, usesArguments := true })
  | [] => (none, { p with usesArguments := true })

def settled (p : Printing) (amount? : Option Bytes) : Option Bytes × Printing :=
  if amount? = some (ascii "*") then
    let (a, p) := p.next
    (some (a.getD (ascii "0")), p)
  else (amount?, p)

def item (p : Printing) (i : Item) : Printing :=
  if p.stops then p
  else
    match i with
    | .text bs => { p with out := p.out ++ bs }
    | .broken =>
      { p with
        stops := true
        isBroken := true
        troubles := p.troubles ++ [ascii "%: invalid directive"] }
    | .directive d =>
      let (width, p) := p.settled d.width
      let (precision, p) := p.settled d.precision
      let d := { d with width, precision }
      let size := (width.bind count?).getD 0
      let put (zeroed : Bool) (bs : Bytes) (p : Printing) : Printing :=
        { p with out := p.out ++ padded d.isLeft zeroed size bs }
      let short (bs : Bytes) : Bytes :=
        match precision with
        | some n => bs.take ((count? n).getD 0)
        | none => bs
      match d.letter with
      | 's' =>
        let (a, p) := p.next
        put false (short (a.getD [])) p
      | 'c' =>
        let (a, p) := p.next
        put false ((a.getD []).take 1) p
      | 'b' =>
        let (a, p) := p.next
        let bs := a.getD []
        let (bs, stops) := escaped (bs.length + 1) bs
        { put false (short bs) p with stops }
      | c =>
        if "diouxX".toList.contains c then
          let (a, p) := p.next
          let (n, good) := match a with
            | some bs => printfNumber bs
            | none => (0, true)
          let text := a.getD []
          let hasDigit := (text.dropWhile (ascii " +-").contains).head?.any fun b =>
            byteOf '0' ≤ b && b ≤ byteOf '9'
          let troubles := if good then []
            else [text ++ ascii (if hasDigit then ": not completely converted"
              else ": expected numeric value")]
          put (d.isZeroed && precision.isNone) (numberText d n)
            { p with troubles := p.troubles ++ troubles }
        else
          { p with
            stops := true
            isBroken := true
            troubles := p.troubles ++ [ascii "%" ++ [byteOf c] ++ ascii ": invalid directive"] }

/-- Goes through a format as often as there are arguments for it. -/
def rounds (format : List Item) : (fuel : Nat) → Printing → Printing
  | 0, p => p
  | fuel + 1, p =>
    let p := format.foldl item { p with usesArguments := false }
    if p.stops || p.arguments = [] || !p.usesArguments then p else rounds format fuel p

end Printing

def printed (format : Bytes) (arguments : List Bytes) : Printing :=
  Printing.rounds (items (format.length + 1) format) (arguments.length + 1)
    { arguments := arguments }

def Printing.status (p : Printing) : Nat :=
  if p.isBroken then 2 else if p.troubles = [] then 0 else 1

end PackageSweep.Shell
