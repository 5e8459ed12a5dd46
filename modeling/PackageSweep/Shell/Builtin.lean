import PackageSweep.Shell.Condition
import PackageSweep.Shell.Kill

/-!
# Built-in commands

The commands that a shell executes by itself and that start no further commands. A built-in command
answers with its status.
-/

namespace PackageSweep.Shell

abbrev Builtin := List Bytes → Act Nat

namespace Builtin

def refuse (name : String) (what : Bytes) (status : Nat := 2) : Act Nat := do
  complain (ascii (name ++ ": ") ++ what)
  pure status

def abort (name : String) (what : Bytes) : Act α := fail (ascii (name ++ ": ") ++ what)

/-! ## Output and conditions -/

def echo : Builtin := fun as => do
  write 1 (echoed as)
  pure 0

def printf : Builtin := fun as =>
  match as with
  | [] => refuse "printf" (ascii "usage: printf format [arg ...]")
  | format :: rest => do
    let (format, rest) := if format = ascii "--" then (rest.headD [], rest.tail) else (format, rest)
    let p := printed format rest
    write 1 p.out
    for t in p.troubles do
      complain (ascii "printf: " ++ t)
    pure p.status

def decided (name : String) (as : List Bytes) : Act Nat := do
  match Condition.decide (← get).world as with
  | .ok true => pure 0
  | .ok false => pure 1
  | .error e => refuse name e.text

def test : Builtin := decided "test"

def bracket : Builtin := fun as =>
  match as.getLast? with
  | some last =>
    if last = ascii "]" then decided "[" as.dropLast else refuse "[" (ascii "missing ]")
  | none => refuse "[" (ascii "missing ]")

/-! ## Directories -/

def placePath (p : Place) : Bytes := ascii ("/" ++ "/".intercalate p)

def pwd : Builtin := fun _ => do
  write 1 (placePath (← get).world.here ++ [byteOf '\n'])
  pure 0

def cd : Builtin := fun as => do
  let s ← get
  let as := as.filter fun a => a != ascii "-P" && a != ascii "-L" && a != ascii "--"
  let goesBack := as.head? = some (ascii "-")
  let target? := match as with
    | [] => s.value? "HOME"
    | a :: _ => if goesBack then s.value? "OLDPWD" else some a
  let target := target?.getD []
  if target = [] then do
    if goesBack then write 1 (placePath s.world.here ++ [byteOf '\n'])
    pure 0
  else
    match s.world.find (nameText target) with
    | .ok (place, .directory) => do
      let old := placePath s.world.here
      modify fun s => { s with world := { s.world with here := place } }
      modify (·.assign "OLDPWD" old)
      modify (·.assign "PWD" (placePath place))
      if goesBack then write 1 (placePath place ++ [byteOf '\n'])
      pure 0
    | _ => refuse "cd" (ascii "can't cd to " ++ target)

/-! ## Variables -/

/-- A name and the value that an argument gives it, if it gives one. -/
def declaration (a : Bytes) : String × Option Bytes :=
  let equals := byteOf '='
  let name := nameText (a.takeWhile (· != equals))
  match a.dropWhile (· != equals) with
  | _ :: value => (name, some value)
  | [] => (name, none)

def shellQuoted (bs : Bytes) : Bytes :=
  ascii "'" ++ (bs.flatMap fun b => if b = byteOf '\'' then ascii "'\"'\"'" else [b]) ++ ascii "'"

def declare (name : String) (change : Binding → Binding) : Builtin := fun as => do
  let names := as.filter (· ≠ ascii "-p")
  if names = [] then
    let chosen := (← get).bindings.filter fun (_, b) => b == change b
    for (n, b) in chosen.mergeSort (fun x y => x.1 ≤ y.1) do
      let value := match b.value with
        | some v => ascii "=" ++ shellQuoted v
        | none => []
      write 1 (ascii (name ++ " " ++ n) ++ value ++ [byteOf '\n'])
  else
    for a in names do
      let (n, value?) := declaration a
      if !isName n.toList then abort name (ascii n ++ ascii ": bad variable name")
      match value? with
      | some v => assign n v
      | none => pure ()
      modify fun s => s.bind n (change ((s.bindings.lookup n).getD ⟨none, false, false⟩))
  pure 0

def exporting : Builtin := declare "export" fun b => { b with isExported := true }

def readOnly : Builtin := declare "readonly" fun b => { b with isReadOnly := true }

def unset : Builtin := fun as => do
  let functionsOnly := as.contains (ascii "-f")
  for a in as.filter (fun a => a != ascii "-f" && a != ascii "-v") do
    let name := nameText a
    let s ← get
    if functionsOnly then
      set { s with functions := s.functions.filter (·.1 != name.toList) }
    else if !isName name.toList then abort "unset" (a ++ ascii ": bad variable name")
    else if (s.bindings.lookup name).any (·.isReadOnly) then
      abort "unset" (a ++ ascii ": is read only")
    else set (s.unbind name)
  pure 0

def localNames : Builtin := fun as => do
  match (← get).hidden with
  | [] => abort "local" (ascii "not in a function")
  | _ =>
    for a in as do
      let (n, value?) := declaration a
      if !isName n.toList then abort "local" (ascii n ++ ascii ": bad variable name")
      modify fun s =>
        match s.hidden with
        | top :: below =>
          if top.any (·.1 == n) then s
          else { s with hidden := ((n, s.bindings.lookup n) :: top) :: below }
        | [] => s
      match value? with
      | some v => assign n v
      | none => pure ()
    pure 0

def switch (isOn : Bool) (o : Options) (letters : Bytes) : Option Options :=
  letters.foldl (fun o b => o.bind fun o =>
    match Char.ofNat b.toNat with
    | 'e' => some { o with stopsOnFailure := isOn }
    | 'u' => some { o with refusesUnset := isOn }
    | 'f' => some { o with takesPatternsLiterally := isOn }
    | 'x' => some { o with showsCommands := isOn }
    | c => if "abCmnvVEIip".toList.contains c then some o else none) (some o)

def optionLetters : List (String × String) :=
  [("errexit", "e"), ("noglob", "f"), ("ignoreeof", "I"), ("interactive", "i"), ("monitor", "m"),
    ("noexec", "n"), ("stdin", ""), ("xtrace", "x"), ("verbose", "v"), ("vi", "V"), ("emacs", "E"),
    ("noclobber", "C"), ("allexport", "a"), ("notify", "b"), ("nounset", "u"), ("nolog", ""),
    ("debug", "")]

def settings : (fuel : Nat) → Builtin
  | 0, _ => pure 0
  | fuel + 1, as => do
    match as with
    | [] => pure 0
    | a :: rest =>
      if a = ascii "--" then do
        modify fun s => { s with arguments := rest }
        pure 0
      else
        match a with
        | sign :: l :: ls =>
          if sign = byteOf '-' ∨ sign = byteOf '+' then
            let (letters, rest, shown) :=
              if l = byteOf 'o' ∧ ls = [] then
                match rest with
                | [] => (some [], [], [])
                | n :: more =>
                  ((optionLetters.lookup (nameText n)).map ascii, more, byteOf ' ' :: n)
              else (some (l :: ls), rest, [])
            match letters.bind (switch (sign = byteOf '-') (← get).options) with
            | some o => do
                modify fun s => { s with options := o }
                settings fuel rest
            | none => abort "set" (ascii "Illegal option " ++ a ++ shown)
          else do
            modify fun s => { s with arguments := as }
            pure 0
        | _ => do
          modify fun s => { s with arguments := as }
          pure 0

def options : Builtin := fun as => do
  if as = [] then
    for (n, b) in (← get).bindings.mergeSort (fun x y => x.1 ≤ y.1) do
      match b.value with
      | some v => write 1 (ascii (n ++ "=") ++ shellQuoted v ++ [byteOf '\n'])
      | none => pure ()
    pure 0
  else settings (as.length + 1) as

def numberOr (name : String) (other : Nat) (as : List Bytes) : Act Nat :=
  match as with
  | [] => pure other
  | a :: _ =>
    match count? a with
    | some n => pure n
    | none => abort name (ascii "Illegal number: " ++ a)

def shift : Builtin := fun as => do
  let n ← numberOr "shift" 1 as
  let s ← get
  if s.arguments.length < n then abort "shift" (ascii "can't shift that many")
  set { s with arguments := s.arguments.drop n }
  pure 0

/-! ## Input -/

/-- The bytes of one line of input and how many were read. Unless it is raw, a backslash guards the
byte behind it and joins lines. -/
def inputLine (isRaw : Bool) : (fuel : Nat) → Bytes → List Glyph × Nat × Bool
  | 0, _ => ([], 0, false)
  | _, [] => ([], 0, false)
  | fuel + 1, b :: r =>
    if b = byteOf '\n' then ([], 1, true)
    else if b = byteOf '\\' ∧ !isRaw then
      match r with
      | [] => ([], 1, false)
      | c :: r =>
        let (gs, n, ended) := inputLine isRaw fuel r
        (if c = byteOf '\n' then gs else ⟨c, true⟩ :: gs, n + 2, ended)
    else
      let (gs, n, ended) := inputLine isRaw fuel r
      (⟨b, false⟩ :: gs, n + 1, ended)

/-- Shares a line out among so many variables; the last takes all that is left. -/
def shared (separators : Bytes) : (count : Nat) → List Glyph → List Bytes
  | 0, _ => []
  | count, gs =>
    let separates (g : Glyph) : Bool := !g.isQuoted && separators.contains g.byte
    let blank (g : Glyph) : Bool := separates g &&
      (g.byte == byteOf ' ' || g.byte == byteOf '\t' || g.byte == byteOf '\n')
    let gs := gs.dropWhile blank
    match count with
    | 0 => []
    | 1 =>
      let trimmed := (gs.reverse.dropWhile blank).reverse
      let isLone := (trimmed.filter separates).length = 1 && (trimmed.getLast?.any separates)
      [plain (if isLone then trimmed.dropLast else trimmed)]
    | count + 1 =>
      let field := gs.takeWhile fun g => !separates g
      let rest := (gs.drop field.length).dropWhile blank
      let rest := match rest with
        | g :: r => if separates g then r else rest
        | [] => []
      plain field :: shared separators count rest

def read : Builtin := fun as => do
  let isRaw := as.contains (ascii "-r")
  let names := (as.filter fun a => a != ascii "-r").map nameText
  if names = [] then refuse "read" (ascii "arg count")
  else do
    let s ← get
    let input := s.waiting 0
    let (gs, n, ended) := inputLine isRaw (input.length + 1) input
    modify (·.advance 0 n)
    for (name, value) in names.zip (shared s.separators names.length gs) do
      if isName name.toList then assign name value
      else abort "read" (ascii name ++ ascii ": bad variable name")
    pure (if ended then 0 else 1)

/-! ## Processes -/

def sendAll (signal : Nat) : List Bytes → Act Nat
  | [] => pure 0
  | a :: rest => do
    match count? a with
    | none => refuse "kill" (ascii "Illegal number: " ++ a)
    | some p => do
      let isSent ← Kill.send p signal
      if !isSent then complain (ascii "kill: No such process\n")
      let status ← sendAll signal rest
      pure (if isSent then status else 1)

def kill : Builtin := fun as => do
  let usage := refuse "kill"
    (ascii ("Usage: kill [-s sigspec | -signum | -sigspec] [pid | job]... or\n" ++
      "kill -l [exitstatus]"))
  match as with
  | [] => usage
  | a :: rest =>
    if a = ascii "-l" then do
      match rest with
      | [] => write 1 (ascii ("\n".intercalate ("0" :: Kill.names) ++ "\n"))
      | n :: _ =>
        match count? n with
        | some n => write 1 (ascii (((Kill.names[n % 128 - 1]?).getD "") ++ "\n"))
        | none => write 1 (decimal ((Kill.number? n).getD 0) ++ [byteOf '\n'])
      pure 0
    else
      let (signal?, pids, text) := match a, rest with
        | dash :: name, rest =>
          if dash ≠ byteOf '-' then (some 15, a :: rest, [])
          else if a = ascii "--" then (some 15, rest, [])
          else if a = ascii "-s" then (Kill.number? (rest.headD []), rest.tail, rest.headD [])
          else (Kill.number? name, rest, name)
        | [], rest => (some 15, a :: rest, [])
      match signal? with
      | none =>
        if a = ascii "-s" then
          refuse "kill" (ascii "invalid signal number or name: " ++ text)
        else refuse "kill" (ascii "Illegal option -" ++ text.take 1)
      | some signal => if pids = [] then usage else sendAll signal pids

def wait : Builtin := fun as => do
  match as with
  | [] => pure 0
  | _ =>
    let s ← get
    pure (as.foldl (fun _ a => ((count? a).bind fun p => s.jobs.lookup p).getD 127) 0)

/-! ## Leaving -/

def exit : Builtin := fun as => do
  let n ← numberOr "exit" (← get).status as
  exitWith (n % 256)

def ret : Builtin := fun as => do
  let n ← numberOr "return" (← get).status as
  finish n
  throw .endOfFunction

def leaving (name : String) (stop : Nat → Stop) : Builtin := fun as => do
  let n ← numberOr name 1 as
  if n = 0 then abort name (ascii "Illegal number: 0")
  let loops := (← get).loops
  if loops = 0 then pure 0
  else do
    finish 0
    throw (stop (min n loops))

def trap : Builtin := fun as => do
  let clear (names : List Bytes) : Act Nat := do
    for n in names do
      match Kill.number? n with
      | some k => modify fun s => { s with traps := s.traps.filter (·.1 != k) }
      | none => write 2 (ascii "trap: " ++ n ++ ascii ": bad trap\n")
    pure (if names.all fun n => (Kill.number? n).isSome then 0 else 1)
  match as.filter (· ≠ ascii "--") with
  | [] => do
    for (k, command) in (← get).traps.mergeSort (fun x y => x.1 ≤ y.1) do
      let name := if k = 0 then "EXIT" else (Kill.names[k - 1]?).getD ""
      write 1 (ascii "trap -- " ++ shellQuoted command ++ ascii (" " ++ name ++ "\n"))
    pure 0
  | [n] => clear [n]
  | command :: names =>
    if command = ascii "-" then clear names
    else if (count? command).isSome then clear (command :: names)
    else do
      for n in names do
        match Kill.number? n with
        | some k => modify fun s => { s with traps := (k, command) :: s.traps.filter (·.1 != k) }
        | none => write 2 (ascii "trap: " ++ n ++ ascii ": bad trap\n")
      pure (if names.all fun n => (Kill.number? n).isSome then 0 else 1)

def umask : Builtin := fun as => do
  if as = [] then write 1 (ascii "0022\n")
  pure 0

def nothing : Builtin := fun _ => pure 0

def failing : Builtin := fun _ => pure 1

/-- The built-in commands that keep the assignments before them and whose trouble stops the shell.
-/
def special : List (String × Builtin) :=
  [(":", nothing), ("break", leaving "break" .leaveLoop),
    ("continue", leaving "continue" .nextRound), ("exit", exit), ("export", exporting),
    ("readonly", readOnly), ("return", ret), ("set", options), ("shift", shift),
    ("times", nothing), ("trap", trap), ("unset", unset)]

def ordinary : List (String × Builtin) :=
  [("[", bracket), ("alias", nothing), ("bg", nothing), ("cd", cd), ("chdir", cd), ("echo", echo),
    ("false", failing), ("fg", nothing), ("hash", nothing), ("jobs", nothing), ("kill", kill),
    ("local", localNames), ("printf", printf), ("pwd", pwd), ("read", read), ("test", test),
    ("true", nothing), ("ulimit", nothing), ("umask", umask), ("unalias", nothing), ("wait", wait)]

end Builtin

end PackageSweep.Shell
