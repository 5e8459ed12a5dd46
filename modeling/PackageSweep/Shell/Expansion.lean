import PackageSweep.Shell.Arithmetic
import PackageSweep.Shell.State

/-!
# Expansion of words

A word becomes a row of chunks. Chunks of what was not quoted and came out of a substitution are
split into fields; then the fields that hold unquoted marks of patterns become the names of files.
How a command substitution is carried out is left to the caller.
-/

namespace PackageSweep.Shell

/-- A piece of an expanded word. -/
inductive Chunk where
  | fixed (bs : Bytes) (isQuoted : Bool)
  /-- What a substitution left outside quotes. -/
  | loose (bs : Bytes)
  /-- The end of one positional parameter and the beginning of the next. -/
  | gap
  deriving DecidableEq

def Chunk.ofValue (isQuoted : Bool) (bs : Bytes) : Chunk :=
  if isQuoted then .fixed bs true else .loose bs

def joinedBytes (cs : List Chunk) : Bytes :=
  cs.flatMap fun
    | .fixed bs _ => bs
    | .loose bs => bs
    | .gap => [byteOf ' ']

/-- The bytes of an expanded word with what quoting says of each. -/
def joinedGlyphs (cs : List Chunk) : List Glyph :=
  cs.flatMap fun
    | .fixed bs q => glyphs q bs
    | .loose bs => glyphs false bs
    | .gap => glyphs true [byteOf ' ']

/-! ## Fields -/

/-- Fields on their way: those that are done, and the one at hand. -/
structure Fields where
  done : List (List Glyph) := []
  current : Option (List Glyph) := none
  /-- Whether blanks have just ended a field. -/
  isPending : Bool := false

namespace Fields

def close (f : Fields) : Fields :=
  match f.current with
  | some gs => { f with done := f.done ++ [gs], current := none }
  | none => f

def add (gs : List Glyph) (f : Fields) : Fields :=
  { f with current := some (f.current.getD [] ++ gs), isPending := false }

def addLoose (separators : Bytes) (f : Fields) (b : UInt8) : Fields :=
  if separators.contains b then
    let isBlank := b == byteOf ' ' || b == byteOf '\t' || b == byteOf '\n'
    if f.current.isSome then { f.close with isPending := isBlank }
    else if isBlank then f
    else if f.isPending then { f with isPending := false }
    else { f with done := f.done ++ [[]] }
  else f.add [⟨b, false⟩]

def addChunk (separators : Bytes) (f : Fields) : Chunk → Fields
  | .fixed bs q => if bs = [] ∧ !q then f else f.add (glyphs q bs)
  | .loose bs => bs.foldl (addLoose separators) f
  | .gap => f.close

end Fields

def fields (separators : Bytes) (cs : List Chunk) : List (List Glyph) :=
  (cs.foldl (Fields.addChunk separators) {}).close.done

/-! ## Parameters -/

def Options.letters (o : Options) : Bytes :=
  ascii ((if o.stopsOnFailure then "e" else "") ++ (if o.takesPatternsLiterally then "f" else "") ++
    (if o.refusesUnset then "u" else "") ++ (if o.showsCommands then "x" else ""))

def State.parameter? (s : State) (name : List Char) : Option Bytes :=
  match name with
  | ['#'] => some (decimal s.arguments.length)
  | ['?'] => some (decimal s.status)
  | ['$'] => some (decimal s.shell)
  | ['!'] => s.lastBackground.map decimal
  | ['-'] => some s.options.letters
  | ['0'] => some s.name
  | cs =>
    match Text.natural? cs with
    | some n => s.arguments[n - 1]?
    | none => s.value? (String.ofList cs)

def State.allArguments (s : State) (isJoined isQuoted : Bool) : List Chunk :=
  if isJoined && isQuoted then [.fixed (joinedWith (s.separators.take 1) s.arguments) true]
  else (s.arguments.map fun a => [Chunk.ofValue isQuoted a]) |> List.intercalate [.gap]

def integer (n : Int) : Bytes := ascii (toString n)

def State.number (s : State) (name : List Char) : Except Arithmetic.Trouble Int :=
  match s.value? (String.ofList name) with
  | none => .ok 0
  | some bs =>
    let cs := Arithmetic.skipBlanks (Utf8.decodeLossy bs)
    let (negative, digits) := match cs with
      | '-' :: r => (true, r)
      | r => (false, r)
    if cs = [] then .ok 0
    else
      match Arithmetic.numeral? digits with
      | some n => .ok (if negative then -n else n)
      | none => .error (.badNumber cs)

def calculate (text : Bytes) : Act Bytes := do
  let s ← get
  let cs := Utf8.decodeLossy text
  match (Arithmetic.read cs).bind fun t => Arithmetic.eval s.number t [] with
  | .ok (n, assigned) => do
    for (name, value) in assigned.reverse do
      assign (String.ofList name) (integer value)
    pure (integer n)
  | .error (.badNumber cs) => fail (ascii (Arithmetic.Trouble.badNumber cs).text)
  | .error trouble => fail (ascii trouble.text ++ ascii ": \"" ++ text ++ ascii "\"")

def operandWord (isQuoted : Bool) (operand : List Char) : Except Defect Word :=
  if isQuoted then (quotedParts .braces (operand.length + 1) operand).map (·.1)
  else wholeWord operand

def withHome (s : State) (w : Word) : Word :=
  match w with
  | .text ('~' :: cs) false :: rest =>
    if cs.head?.all (· == '/') && (!cs.isEmpty || rest.isEmpty) then
      match s.value? "HOME" with
      | some home => .text (Utf8.decodeLossy home) true :: .text cs false :: rest
      | none => w
    else w
  | w => w

abbrev Substitute := List Char → Act Bytes

/-! ## Parts and words -/

def chunks (substitute : Substitute) : (fuel : Nat) → Word → Act (List Chunk)
  | 0, _ => throw .starved
  | _, [] => pure []
  | fuel + 1, p :: rest => do
    let now ← match p with
      | .text cs q => pure [Chunk.fixed (Utf8.encode cs) q]
      | .command source q => do pure [Chunk.ofValue q (← substitute source)]
      | .arithmetic source q => do
        match quotedParts .lines (source.length + 1) source with
        | .error d => fail (ascii ("Syntax error: " ++ d.text))
        | .ok (w, _) => do
          let text := joinedBytes (← chunks substitute fuel w)
          pure [Chunk.ofValue q (← calculate text)]
      | .senseless => fail (ascii "Bad substitution")
      | .parameter name use operand q => do
        let s ← get
        let isAll := name = ['@'] ∨ name = ['*']
        let value? := if isAll then
            (if s.arguments = [] then none else some (joinedWith [byteOf ' '] s.arguments))
          else s.parameter? name
        let shown := if isAll then s.allArguments (name = ['*']) q
          else [Chunk.ofValue q (value?.getD [])]
        let word : Act (List Chunk) := do
          match operandWord q operand with
          | .error d => fail (ascii ("Syntax error: " ++ d.text))
          | .ok w => do
            let cs ← chunks substitute fuel (withHome s w)
            pure (cs.map fun
              | .fixed bs false => Chunk.ofValue q bs
              | c => c)
        let isMissing (colon : Bool) := value?.isNone || (colon && value? == some [])
        let refuse : Act Unit :=
          if s.options.refusesUnset && value?.isNone && !isAll then
            fail (Utf8.encode name ++ ascii ": parameter not set")
          else pure ()
        let trimmed (cut : List Glyph → Bytes → Bytes) : Act (List Chunk) := do
          refuse
          match wholeWord operand with
          | .error d => fail (ascii ("Syntax error: " ++ d.text))
          | .ok w => do
            let gs := joinedGlyphs (← chunks substitute fuel w)
            pure [Chunk.ofValue q (cut gs (value?.getD []))]
        match use with
        | .plain => do
          refuse
          pure shown
        | .length => do
          refuse
          let n := if isAll then s.arguments.length else (value?.getD []).length
          pure [Chunk.ofValue q (decimal n)]
        | .default colon => if isMissing colon then word else pure shown
        | .alternative colon =>
          if isMissing colon then pure [Chunk.ofValue q []] else word
        | .assign colon =>
          if isMissing colon then do
            let bs := joinedBytes (← word)
            if isName name then assign (String.ofList name) bs
            else fail (ascii "Bad substitution")
            pure [Chunk.ofValue q bs]
          else pure shown
        | .require colon =>
          if isMissing colon then do
            let bs := joinedBytes (← word)
            let why := if operand = [] then
                (if colon then ascii "parameter not set or null" else ascii "parameter not set")
              else bs
            fail (Utf8.encode name ++ ascii ": " ++ why)
          else pure shown
        | .withoutFront longest => trimmed (withoutFront longest)
        | .withoutBack longest => trimmed (withoutBack longest)
    let later ← chunks substitute fuel rest
    pure (now ++ later)

def depth : Nat := 2000

def expandWords (substitute : Substitute) : List Word → Act (List Bytes)
  | [] => pure []
  | w :: ws => do
    let cs ← chunks substitute depth (withHome (← get) w)
    let s ← get
    let now := (fields s.separators cs).flatMap fun gs =>
      if s.options.takesPatternsLiterally then [plain gs] else files s.world gs
    let later ← expandWords substitute ws
    pure (now ++ later)

def expandWhole (substitute : Substitute) (w : Word) : Act Bytes := do
  pure (joinedBytes (← chunks substitute depth (withHome (← get) w)))

def expandPattern (substitute : Substitute) (w : Word) : Act (List Glyph) := do
  pure (joinedGlyphs (← chunks substitute depth (withHome (← get) w)))

end PackageSweep.Shell
