import PackageSweep.Shell.Utility.Expression

/-!
# Utilities for lines

Choosing, counting, sorting and changing the lines and the bytes of a text.
-/

namespace PackageSweep.Shell.Utility

def cat : Utility := withOptions "nuAevtETbs" "" fun p =>
  onContents plainMissing (fun found =>
    let whole := found.flatMap (·.2)
    if p.has 'n' then
      [.out ((lines whole).zipIdx 1 |>.flatMap fun (l, n) =>
        let digits := decimal n
        List.replicate (6 - digits.length) (byteOf ' ') ++ digits ++ [byteOf '\t'] ++ l)]
    else [.out whole]) p.operands

/-- A short form of a count of lines, such as `-3`, as the option that it stands for. -/
def longCount : List Bytes → List Bytes
  | a :: rest =>
    match a with
    | dash :: ds =>
      if dash = byteOf '-' && (count? ds).isSome then ascii "-n" :: ds :: rest else a :: rest
    | [] => a :: rest
  | [] => []

def signed? (bs : Bytes) : Option (Option Char × Nat) :=
  match bs with
  | b :: ds =>
    if b = byteOf '-' then (count? ds).map (some '-', ·)
    else if b = byteOf '+' then (count? ds).map (some '+', ·)
    else (count? bs).map (none, ·)
  | [] => none

/-- The contents one after the other, each under its name if there are several. -/
def underHeadings (cut : Bytes → Bytes) (found : List (Bytes × Bytes)) : List Writing :=
  if found.length > 1 then
    let block (x : Bytes × Bytes) : Bytes :=
      ascii "==> " ++ (if x.1 = ascii "-" then ascii "standard input" else x.1) ++ ascii " <==\n" ++
        cut x.2
    [.out (joinedWith (ascii "\n") (found.map block))]
  else found.map fun x => .out (cut x.2)

/-- A utility that keeps a part of each text, counted in lines or in bytes. -/
def keeping (ofLines : Option Char → Nat → Bytes → Bytes)
    (ofBytes : Option Char → Nat → Bytes → Bytes) : Utility := fun c =>
  withOptions "qvf" "nc" (fun p c =>
    let amount := (p.value? 'n').getD (ascii "10")
    match p.value? 'c', signed? amount with
    | some bytes, _ =>
      match signed? bytes with
      | some (sign, n) => onContents openMissing (underHeadings (ofBytes sign n)) p.operands 1 c
      | none =>
        { status := 1
          written := c.reports (ascii "invalid number of bytes: " ++ inQuotes bytes)
          world := c.world }
    | none, some (sign, n) => onContents openMissing (underHeadings (ofLines sign n)) p.operands 1 c
    | none, none =>
      { status := 1
        written := c.reports (ascii "invalid number of lines: " ++ inQuotes amount)
        world := c.world }) 1 { c with arguments := longCount c.arguments }

def head : Utility := keeping
  (fun sign n bs =>
    let ls := lines bs
    (if sign = some '-' then ls.take (ls.length - n) else ls.take n).flatten)
  (fun sign n bs => if sign = some '-' then bs.take (bs.length - n) else bs.take n)

def tail : Utility := keeping
  (fun sign n bs =>
    let ls := lines bs
    (if sign = some '+' then ls.drop (n - 1) else ls.drop (ls.length - n)).flatten)
  (fun sign n bs => if sign = some '+' then bs.drop (n - 1) else bs.drop (bs.length - n))

def isBlankByte (b : UInt8) : Bool := b == byteOf ' ' || (9 ≤ b && b ≤ 13)

def wordCount (bs : Bytes) : Nat :=
  (bs.foldl (fun (n, inside) b =>
    if isBlankByte b then (n, false) else (if inside then n else n + 1, true)) (0, false)).1

def rightAligned (width : Nat) (n : Nat) : Bytes :=
  let digits := decimal n
  List.replicate (width - digits.length) (byteOf ' ') ++ digits

def wc : Utility := withOptions "lwcm" "" fun p =>
  onContents plainMissing (fun found =>
    let wants (o : Char) := p.has o || p.options.isEmpty && o != 'm'
    let counts (bs : Bytes) : List Nat :=
      (if wants 'l' then [bs.count (byteOf '\n')] else []) ++
        (if wants 'w' then [wordCount bs] else []) ++
        (if wants 'm' then [(Utf8.decodeLossy bs).length] else []) ++
        (if wants 'c' then [bs.length] else [])
    let total := found.flatMap (·.2)
    let isShort := (counts []).length = 1 && p.operands.length ≤ 1
    let width := if isShort then 1
      else if p.operands = [] ∨ p.operands.contains (ascii "-") then 7
      else (decimal total.length).length
    let row (name : Bytes) (ns : List Nat) : Bytes :=
      joinedWith [byteOf ' '] (ns.map (rightAligned width)) ++
        (if name = [] then [] else byteOf ' ' :: name) ++ [byteOf '\n']
    let rows := found.map fun (o, bs) => row (if p.operands = [] then [] else o) (counts bs)
    let sum := (found.map fun x => counts x.2).foldl (List.zipWith (· + ·))
      (List.replicate (counts []).length 0)
    [.out (rows.flatten ++ if p.operands.length > 1 then row (ascii "total") sum else [])])
    p.operands

def leadingNumber (l : Bytes) : Int :=
  let l := l.dropWhile isBlankByte
  let (isNegative, digits) := match l with
    | b :: r => if b = byteOf '-' then (true, r) else (false, l)
    | [] => (false, [])
  let n := ((count? (digits.takeWhile fun b => byteOf '0' ≤ b && b ≤ byteOf '9')).getD 0 : Nat)
  if isNegative then -n else n

def notAfter : Bytes → Bytes → Bool
  | [], _ => true
  | _ :: _, [] => false
  | a :: as, b :: bs => a < b || (a == b && notAfter as bs)

def withoutRepeats (same : Bytes → Bytes → Bool) : List Bytes → List Bytes
  | a :: b :: rest =>
    if same a b then withoutRepeats same (a :: rest) else a :: withoutRepeats same (b :: rest)
  | ls => ls
termination_by ls => ls.length

def order (p : Parsed) : Utility :=
  onContents (fun o why => ascii "cannot read: " ++ clear o ++ ascii ": " ++ why) (fun found =>
    let ls := found.flatMap fun x => bareLines x.2
    let inOrder (a b : Bytes) : Bool :=
      if p.has 'n' then
        let m := leadingNumber a
        let n := leadingNumber b
        m < n || (m == n && (p.has 'u' || notAfter a b))
      else notAfter a b
    let sorted := ls.mergeSort fun a b => if p.has 'r' then inOrder b a else inOrder a b
    let same (a b : Bytes) : Bool :=
      if p.has 'n' then leadingNumber a == leadingNumber b else a == b
    [.out (ofLines (if p.has 'u' then withoutRepeats same sorted else sorted))]) p.operands 2

def sort : Utility := withOptions "rnufbdi" "kto" order 2

/-- Lines with the number of times that each is repeated in a row. -/
def runs : List Bytes → List (Bytes × Nat)
  | [] => []
  | l :: ls =>
    match runs ls with
    | (m, n) :: rest => if l = m then (m, n + 1) :: rest else (l, 1) :: (m, n) :: rest
    | [] => [(l, 1)]

def uniq : Utility := withOptions "cdu" "" fun p =>
  onContents plainMissing (fun found =>
    let chosen := (runs (found.flatMap fun x => bareLines x.2)).filter fun (_, n) =>
      (!p.has 'd' || n > 1) && (!p.has 'u' || n == 1)
    [.out (chosen.flatMap fun (l, n) =>
      (if p.has 'c' then rightAligned 7 n ++ [byteOf ' '] else []) ++ l ++ [byteOf '\n'])])
    (p.operands.take 1)

def ranges? (bs : Bytes) : Option (List (Nat × Option Nat)) :=
  (piecesAt (byteOf ',') bs).mapM fun item =>
    match piecesAt (byteOf '-') item with
    | [one] => (count? one).map fun n => (n, some n)
    | [lo, hi] =>
      if lo = [] then (count? hi).map fun n => (1, some n)
      else if hi = [] then (count? lo).map fun n => (n, none)
      else (count? lo).bind fun m => (count? hi).map fun n => (m, some n)
    | _ => none

def inRanges (rs : List (Nat × Option Nat)) (n : Nat) : Bool :=
  rs.any fun (lo, hi) => lo ≤ n && hi.all (n ≤ ·)

/-- The members of a list at the chosen places, counted from one. -/
def chosenFrom (rs : List (Nat × Option Nat)) (xs : List α) : List α :=
  (xs.zipIdx 1).filterMap fun (x, n) => if inRanges rs n then some x else none

def cut : Utility := withOptions "s" "dfcb" fun p c =>
  let separator := ((p.value? 'd').bind (·.head?)).getD (byteOf '\t')
  let byFields := p.value? 'f'
  let byBytes := (p.value? 'c').or (p.value? 'b')
  match (byFields.or byBytes).bind ranges? with
  | none => c.misused (ascii "you must specify a list of bytes, characters, or fields")
  | some rs =>
    onContents plainMissing (fun found =>
      let kept := (found.flatMap fun x => bareLines x.2).filterMap fun l =>
        if byFields.isSome then
          if l.contains separator then
            some (joinedWith [separator] (chosenFrom rs (piecesAt separator l)))
          else if p.has 's' then none
          else some l
        else some (chosenFrom rs l)
      [.out (ofLines kept)]) p.operands 1 c

def setBytes : (fuel : Nat) → Bytes → Bytes
  | 0, _ => []
  | _, [] => []
  | fuel + 1, bs =>
    let named := match bs with
      | a :: b :: r =>
        if a = byteOf '[' && b = byteOf ':' then namedClass? (glyphs false r) else none
      | _ => none
    match named with
    | some (rs, rest) =>
      let members := (List.range 256).map UInt8.ofNat |>.filter fun b =>
        rs.any fun (lo, hi) => lo ≤ b && b ≤ hi
      members ++ setBytes fuel (plain rest)
    | none =>
      let (b, r) := oneByte bs
      match r with
      | dash :: hi :: r' =>
        if dash = byteOf '-' then
          let (hi, r') := oneByte (hi :: r')
          ((List.range 256).map UInt8.ofNat |>.filter fun x => b ≤ x && x ≤ hi) ++ setBytes fuel r'
        else b :: setBytes fuel r
      | _ => b :: setBytes fuel r
where
  /-- The byte at the front, which may be written with a backslash. -/
  oneByte : Bytes → UInt8 × Bytes
    | [] => (0, [])
    | [b] => (b, [])
    | b :: c :: r =>
      if b = byteOf '\\' then
        if byteOf '0' ≤ c && c ≤ byteOf '7' then
          let digits := ((c :: r).take 3).takeWhile fun d => byteOf '0' ≤ d && d ≤ byteOf '7'
          let value := digits.foldl (fun n d => n * 8 + (d - byteOf '0').toNat) 0
          (UInt8.ofNat value, (c :: r).drop digits.length)
        else
          let named := [('n', 10), ('t', 9), ('r', 13), ('a', 7), ('b', 8), ('f', 12), ('v', 11)]
          ((named.findSome? fun (k, v) => if byteOf k = c then some v else none).getD c, r)
      else (b, c :: r)

def squeezed (set : Bytes) : Bytes → Bytes
  | a :: b :: rest =>
    if a = b && set.contains a then squeezed set (b :: rest) else a :: squeezed set (b :: rest)
  | bs => bs

/-- The byte that takes the place of another. The last byte of the second set is repeated. -/
def translated (froms tos : Bytes) (b : UInt8) : UInt8 :=
  match froms.reverse.idxOf? b with
  | none => b
  | some k =>
    let n := froms.length - 1 - k
    (tos[n]?).getD (tos.getLast?.getD b)

def tr : Utility := withOptions "dscC" "" fun p c =>
  let sets := p.operands.map fun o => setBytes (o.length + 1) o
  let complement (s : Bytes) : Bytes :=
    if p.has 'c' || p.has 'C' then (List.range 256).map UInt8.ofNat |>.filter (!s.contains ·) else s
  let done (bs : Bytes) : Done :=
    { written := [.out bs], world := c.world, readsInput := true }
  match sets with
  | [] => c.misused (ascii "missing operand")
  | [s] =>
    let s := complement s
    if p.has 'd' then done (c.input.filter (!s.contains ·))
    else if p.has 's' then done (squeezed s c.input)
    else c.misused (ascii "missing operand after " ++ inQuotes (p.operands.headD []))
  | s :: t :: _ =>
    let s := complement s
    if p.has 'd' then done (squeezed t (c.input.filter (!s.contains ·)))
    else
      let changed := c.input.map (translated s t)
      done (if p.has 's' then squeezed t changed else changed)

def rev : Utility := withOptions "" "" fun p =>
  onContents openMissing (fun found =>
    [.out ((found.flatMap fun x => lines x.2).flatMap fun l =>
      if l.getLast? = some (byteOf '\n') then l.dropLast.reverse ++ [byteOf '\n'] else l.reverse)])
    p.operands

def lowered (b : UInt8) : UInt8 := if byteOf 'A' ≤ b && b ≤ byteOf 'Z' then b + 32 else b

def occurs (part : Bytes) (whole : Bytes) : Bool :=
  (List.range (whole.length + 1)).any fun n => part.isPrefixOf (whole.drop n)

/-- The expressions of a pattern: one a line, and in the extended form one between bars. -/
def alternatives (isExtended : Bool) (pattern : Bytes) : List Bytes :=
  let ls := if pattern = [] then [[]] else bareLines pattern
  if isExtended then ls.flatMap (piecesAt (byteOf '|')) else ls

def search (p : Parsed) : Utility := fun c =>
  let (pattern?, operands) := match p.value? 'e', p.operands with
    | some e, os => (some e, os)
    | none, o :: os => (some o, os)
    | none, [] => (none, [])
  match pattern? with
  | none =>
    { status := 2
      written := [.err (ascii ("Usage: grep [OPTION]... PATTERNS [FILE]...\n" ++
        "Try 'grep --help' for more information.\n"))]
      world := c.world }
  | some pattern =>
    let fold (bs : Bytes) : Bytes := if p.has 'i' then bs.map lowered else bs
    let chooses (pattern l : Bytes) : Bool :=
      if p.has 'F' then (if p.has 'x' then pattern == l else occurs pattern l)
      else
        let e := Expression.read pattern
        (if p.has 'x' then { e with isAnchored := true, endsLine := true } else e).fits l
    let chosen (l : Bytes) : Bool :=
      (alternatives (p.has 'E') (fold pattern)).any (chooses · (fold l)) !=
        p.has 'v'
    let find (bs : Bytes) : List (Bytes × Nat) :=
      ((bareLines bs).zipIdx 1).filter fun x => chosen x.1
    let names := (operands.length > 1 || p.has 'H') && !p.has 'h'
    let label (o : Bytes) : Bytes := if names then o ++ [byteOf ':'] else []
    let done := onContents plainMissing (fun found =>
      if p.has 'q' then []
      else
        found.map fun (o, bs) =>
          let hits := find bs
          .out (if p.has 'l' then (if hits.isEmpty then [] else ofLines [o])
            else if p.has 'c' then label o ++ decimal hits.length ++ [byteOf '\n']
            else hits.flatMap fun (l, n) =>
              label o ++ (if p.has 'n' then decimal n ++ [byteOf ':'] else []) ++ l ++
                [byteOf '\n']))
      operands 1 c
    let texts := if operands = [] then [c.input]
      else operands.filterMap fun o => (c.world.readBytes (nameText o)).toOption
    let isFound := texts.any fun bs => !(find bs).isEmpty
    { done with
      status := if isFound && (done.status = 0 || p.has 'q') then 0
        else if done.status ≠ 0 then 2 else 1 }

def grep : Utility := withOptions "qvcinxFElsoHhw" "em" search 2

def whole? (bs : Bytes) : Option Int :=
  (signed? bs).map fun (sign, n) => if sign = some '-' then -n else n

def seq : Utility := fun c =>
  let (separator, arguments) := match c.arguments with
    | s :: rest =>
      if s = ascii "-s" then (rest.headD [], rest.tail)
      else if (ascii "-s").isPrefixOf s then (s.drop 2, rest)
      else (ascii "\n", c.arguments)
    | [] => (ascii "\n", [])
  let print (first step last : Int) : Done :=
    let count : Nat := if step = 0 then 0 else (Int.fdiv (last - first) step + 1).toNat
    let ns := (List.range count).map fun k : Nat => ascii (toString (first + step * (k : Int)))
    c.prints (if ns = [] then [] else joinedWith separator ns ++ ascii "\n")
  match arguments, arguments.mapM whole? with
  | [], _ => c.misused (ascii "missing operand")
  | as, none =>
    c.misused (ascii "invalid floating point argument: " ++
      inQuotes ((as.find? fun a => (whole? a).isNone).getD []))
  | _, some [last] => print 1 1 last
  | _, some [first, last] => print first 1 last
  | _, some [first, step, last] => print first step last
  | as, some _ => c.misused (ascii "extra operand " ++ inQuotes (as.getD 3 []))

end PackageSweep.Shell.Utility
