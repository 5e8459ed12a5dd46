import PackageSweep.Shell.Utility.Table

/-!
# Execution of commands

Commands are executed by one step that is given how to execute the commands inside. Processes run
one after the other: a stage of a pipeline has ended when the next begins, and a command in the
background has ended when the shell goes on. What a child process changes in the file tree, in
shared connections and in the output stays; all else is as before when it ends.
-/

namespace PackageSweep.Shell

/-- How the commands inside a command are executed. A command is tested if its failure is looked at.
-/
abbrev Run := (isTested : Bool) → Node → Act Unit

def observe (act : Act Unit) : Act (Except Stop Unit) :=
  tryCatch (do act; pure (.ok ())) fun e => pure (.error e)

def ensuring (act last : Act Unit) : Act Unit := do
  let outcome ← observe act
  last
  match outcome with
  | .ok () => pure ()
  | .error e => throw e

/-! ## Texts -/

def runAll (run : Run) (isTested : Bool) : List Node → Act Unit
  | [] => pure ()
  | n :: ns => do
    run isTested n
    runAll run isTested ns

/-- Executes a text. What is wrong with it is told in the name of who asked for it. -/
def runText (run : Run) (isTested : Bool) (text : Bytes) (asker : Bytes := []) : Act Unit := do
  let script := Script.ofText (Utf8.decodeLossy text)
  runAll run isTested script.commands
  match script.complaint with
  | none => pure ()
  | some c => do
    modify fun s => { s with line := c.line }
    fail (asker ++ ascii ("Syntax error: " ++ c.defect.text))

def runTrap (run : Run) (command : Bytes) : Act Unit := do
  let before := (← get).status
  runText run false command
  finish before

def runCaught (run : Run) : Act Unit := do
  let s ← get
  if s.caught = [] then pure ()
  else do
    set { s with caught := [] }
    for command in s.caught do
      runTrap run command

/-- Executes the command for the end of the process, if there is one. -/
def runAtExit (run : Run) : Act Unit := do
  let s ← get
  match s.traps.lookup 0 with
  | none => pure ()
  | some command => do
    set { s with traps := s.traps.filter (·.1 != 0) }
    runTrap run command

/-! ## Processes -/

/-- Executes an action up to the end of its process. A signal for another process goes on. -/
def toEnd (run : Run) (act : Act Unit) : Act (Option Nat) := do
  let ended (outcome : Except Stop Unit) : Act (Option Nat) := do
    match outcome with
    | .error (.killed p signal) => do
      if p = (← get).process then pure (some signal) else throw (.killed p signal)
    | .error .starved => throw .starved
    | _ => pure none
  match ← ended (← observe act) with
  | some signal => pure (some signal)
  | none => ended (← observe (runAtExit run))

def inChild (run : Run) (announces : Bool) (act : Act Unit) : Act Unit := do
  let s ← get
  let child := s.nextProcess
  set { s with
    process := child
    nextProcess := child + 1
    jobs := []
    traps := s.traps.filter (·.2 = []) }
  let signal? ← toEnd run act
  modify fun t =>
    { s with
      world := s.world.withTree t.world.tree
      connections := t.connections
      nextProcess := t.nextProcess
      status := t.status
      written := t.written }
  match signal? with
  | none => pure ()
  | some signal => do
    finish (128 + signal)
    match Kill.obituary signal with
    | some text => if announces then write 2 (ascii (text ++ "\n"))
    | none => pure ()

def substitute (run : Run) : Substitute := fun source => do
  let before := (← get).status
  let (id, s) := (← get).addConnection (.pipe [])
  set s
  inChild run true do
    modify (·.attach 1 id)
    runText run false (Utf8.encode source)
  modify fun s => { s with substituted := some s.status, status := before }
  match (← get).connections.lookup id with
  | some (.pipe bs) =>
    pure ((bs.filter (· ≠ 0)).reverse.dropWhile (· == byteOf '\n')).reverse
  | _ => pure []

/-- Executes the stages of a pipeline, the first of which reads from a connection. -/
def runStages (run : Run) : (input : Option Nat) → List Node → Act Unit
  | _, [] => pure ()
  | input, n :: rest => do
    let attachInput : Act Unit :=
      match input with
      | some id => modify (·.attach 0 id)
      | none => pure ()
    match rest with
    | [] => inChild run true (do attachInput; run false n)
    | rest => do
      let (id, s) := (← get).addConnection (.pipe [])
      set s
      inChild run true do
        attachInput
        modify (·.attach 1 id)
        run false n
      runStages run (some id) rest

/-! ## Redirections -/

def standardDescriptor? (path : Bytes) : Option Nat :=
  if path = ascii "/dev/stdin" then some 0
  else if path = ascii "/dev/stdout" then some 1
  else if path = ascii "/dev/stderr" then some 2
  else none

def redirect (run : Run) (r : Redirect) : Act (Except Bytes Unit) := do
  match r.target with
  | .document body => do
    let bs ← expandWhole (substitute run) body
    modify (·.connect r.descriptor (.pipe bs))
    pure (.ok ())
  | .path .copy name => do
    let text ← expandWhole (substitute run) name
    match copyDescriptor r.descriptor text (← get) with
    | .ok s => do
      set s
      pure (.ok ())
    | .error e => pure (.error e)
  | .path direction name => do
    let path ← expandWhole (substitute run) name
    let s ← get
    let opened := match standardDescriptor? path with
      | some n => copyDescriptor r.descriptor (decimal n) s
      | none => (openFile direction path s.world).map fun (c, w) =>
        { s with world := w }.connect r.descriptor c
    match opened with
    | .ok s => do
      set s
      pure (.ok ())
    | .error e => pure (.error e)

/-- Carries out redirections up to one that fails, and tells whether none has failed. -/
def redirectAll (run : Run) : List Redirect → Act Bool
  | [] => pure true
  | r :: rs => do
    match ← redirect run r with
    | .ok () => redirectAll run rs
    | .error e => do
      complain e
      finish 2
      pure false

def redirected (run : Run) (rs : List Redirect) (refused act : Act Unit) : Act Unit := do
  let before := (← get).descriptors
  ensuring (do if ← redirectAll run rs then act else refused)
    (modify fun s => { s with descriptors := before })

/-! ## Programs -/

def runUtility (utility : Utility) (name : String) (arguments : List Bytes) : Act Unit := do
  let s ← get
  let input := s.waiting 0
  let done := utility ⟨name, arguments, input, { s.world with environment := s.environment }⟩
  if done.readsInput then modify (·.advance 0 input.length)
  modify fun s => { s with world := s.world.withTree done.world.tree }
  for one in done.written do
    write (descriptor one.stream) one.bytes
  finish done.status

def usualPath : Bytes := ascii "/usr/local/sbin:/usr/local/bin:/usr/sbin:/usr/bin:/sbin:/bin"

/-- What names are bound to in a new shell that inherits some bindings. -/
def firstBindings (inherited : List (String × Binding)) : List (String × Binding) :=
  let others := inherited.filter (·.1 != "IFS")
  let path : Binding := ⟨some usualPath, true, false⟩
  let path := if others.any (·.1 == "PATH") then [] else [("PATH", path)]
  others ++ path ++ [("IFS", ⟨some (ascii " \t\n"), false, false⟩)]

/-- Begins a new shell in the process at hand. Only what is exported stays. -/
def State.renewed (s : State) (name : Bytes) (arguments : List Bytes) : State :=
  { s with
    name
    arguments
    bindings := firstBindings (s.bindings.filter (·.2.isExported))
    functions := []
    shell := s.process
    options := {}
    traps := s.traps.filter (·.2 = [])
    hidden := []
    loops := 0
    status := 0
    line := 1 }

/-- Runs a shell as a program, once it has been given some options. -/
def runShell (run : Run) (name : Bytes) (letters : Bytes) : (arguments : List Bytes) → Act Unit
  | a :: rest =>
    match a with
    | sign :: more =>
      if sign = byteOf '-' ∧ more ≠ [] then runShell run name (letters ++ more) rest
      else begin (a :: rest)
    | [] => begin (a :: rest)
  | [] => begin []
where
  /-- Takes the text to execute from an argument, a file or the input. -/
  begin (operands : List Bytes) : Act Unit := do
    let has (c : Char) : Bool := letters.contains (byteOf c)
    let given := letters.filter fun b => b != byteOf 'c' && b != byteOf 's'
    let options := (Builtin.switch true {} given).getD {}
    let renew (name : Bytes) (arguments : List Bytes) (line : Nat) : Act Unit :=
      modify fun s => { s.renewed name arguments with options, line }
    if has 'c' then
      match operands with
      | [] => do
        renew name [] 0
        fail (ascii "-c requires an argument")
      | text :: more => do
        renew (more.headD name) more.tail 1
        runText run false text
    else
      match operands, has 's' with
      | a :: rest, false =>
        match (← get).world.readBytes (nameText a) with
        | .ok text => do
          renew a rest 1
          runText run false text
        | .error _ => do
          renew name [] 0
          fail (ascii "cannot open " ++ a ++ ascii ": No such file")
      | operands, _ => do
        let s ← get
        let text := s.waiting 0
        set (s.advance 0 text.length)
        renew name operands 1
        runText run false text

def blankWords (bs : Bytes) : List Bytes :=
  ((fields (ascii " \t\n") [.loose bs]).map plain)

def chunked (size : Nat) : (fuel : Nat) → List α → List (List α)
  | 0, _ => []
  | _, [] => []
  | fuel + 1, xs => xs.take size :: chunked size fuel (xs.drop size)

def programDirectories : List Bytes := [ascii "/bin", ascii "/usr/bin"]

/-- The utility that a name or a path leads to. Without a path to look in, another one is taken. -/
def State.program? (s : State) (name : Bytes) (unset : Bytes := []) : Option String :=
  let known := (Utility.table.map (·.1)) ++ Utility.launchers
  let isFound := if name.contains (byteOf '/') then
      programDirectories.any fun d => d ++ byteOf '/' :: lastPart name == name
    else
      (piecesAt (byteOf ':') ((s.value? "PATH").getD unset)).any programDirectories.contains
  if isFound && known.contains (nameText (lastPart name)) then some (nameText (lastPart name))
  else none
where
  lastPart (name : Bytes) : Bytes := (piecesAt (byteOf '/') name).getLast?.getD []

/-- Tells that there is no program with a name, or none that can be run. -/
def missingProgram (name : Bytes) (asker : String) : Act Unit := do
  let isThere := name.contains (byteOf '/') && (← get).world.exists? (nameText name)
  let trouble (e : SystemFault) : Bytes := ascii "env: " ++ inQuotes name ++ ascii ": " ++ reason e
  if asker = "env" then
    write 2 (trouble (if isThere then .permissionDenied else .noEntry) ++ ascii "\n")
  else
    let asker := if asker = "" then [] else ascii (asker ++ ": ")
    complain (asker ++ name ++
      ascii (if isThere ∨ name = [] then ": Permission denied" else ": not found"))
  finish (if isThere then 126 else 127)

def runProgram (run : Run) (asker : String) :
    (fuel : Nat) → (name : Bytes) → (arguments : List Bytes) → Act Unit
  | 0, _, _ => throw .starved
  | fuel + 1, name, arguments => do
    match (← get).program? name (if asker = "env" then usualPath else []) with
    | none => missingProgram name asker
    | some "sh" => runShell run name [] arguments
    | some "dash" => runShell run name [] arguments
    | some "env" => do
      let isPair (a : Bytes) : Bool := a.contains (byteOf '=')
      let arguments ← if arguments.head? = some (ascii "-i") then do
          modify fun s => { s with bindings := s.bindings.filter fun x => !x.2.isExported }
          pure arguments.tail
        else pure arguments
      for a in arguments.takeWhile isPair do
        let (n, v) := Builtin.declaration a
        modify (·.bind n ⟨v, true, false⟩)
      match arguments.dropWhile isPair with
      | [] => do write 1 (Utility.environmentText (← get).environment)
      | command :: rest => runProgram run "env" fuel command rest
    | some "xargs" => do
      let s ← get
      let text := s.waiting 0
      set (s.advance 0 text.length)
      let (size, arguments) := match arguments with
        | o :: n :: rest => if o = ascii "-n" then (count? n, rest) else (none, arguments)
        | as => (none, as)
      let words := blankWords text
      let groups := match size with
        | some n => chunked n words.length words
        | none => [words]
      for group in groups do
        match arguments with
        | [] => runProgram run asker fuel (ascii "echo") group
        | command :: rest => runProgram run asker fuel command (rest ++ group)
    | some "timeout" =>
      match arguments with
      | _ :: command :: rest => runProgram run asker fuel command rest
      | _ => finish 125
    | some "nohup" =>
      match arguments with
      | command :: rest => runProgram run asker fuel command rest
      | [] => finish 125
    | some "nice" =>
      match arguments with
      | command :: rest => runProgram run asker fuel command rest
      | [] => write 1 (ascii "0\n")
    | some short =>
      match Utility.table.lookup short with
      | some utility => runUtility utility short arguments
      | none => missingProgram name asker

/-! ## Simple commands -/

/-- How many rounds a loop makes at most, and how deep commands may be nested. -/
def mostRounds : Nat := 200000
def mostNested : Nat := 3000

def call (run : Run) (isTested : Bool) (body : Node) (arguments : List Bytes) : Act Unit := do
  let s ← get
  set { s with arguments, hidden := [] :: s.hidden, loops := 0 }
  let outcome ← observe (run isTested body)
  modify fun t =>
    let bindings := (t.hidden.headD []).foldl (fun bs (n, b?) =>
      match b? with
      | some b => bs.filter (·.1 != n) ++ [(n, b)]
      | none => bs.filter (·.1 != n)) t.bindings
    { t with arguments := s.arguments, hidden := s.hidden, loops := s.loops, bindings }
  match outcome with
  | .ok () => pure ()
  | .error .endOfFunction => pure ()
  | .error e => throw e

def source (run : Run) (isTested : Bool) (arguments : List Bytes) : Act Unit := do
  match arguments with
  | [] => finish 0
  | path :: _ => do
    let s ← get
    if !path.contains (byteOf '/') then fail (ascii ".: " ++ path ++ ascii ": not found")
    match s.world.readBytes (nameText path) with
    | .error _ => fail (ascii ".: cannot open " ++ path ++ ascii ": No such file")
    | .ok text => do
      finish 0
      match ← observe (runText run isTested text) with
      | .error .endOfFunction => pure ()
      | .error e => throw e
      | .ok () => pure ()

def describe (isLong : Bool) (name : Bytes) : Act Unit := do
  let s ← get
  let text := nameText name
  let put (bs : Bytes) : Act Unit := do
    write 1 (bs ++ [byteOf '\n'])
    finish 0
  let specials := [".", "eval", "exec", "command", "type"] ++ Builtin.special.map (·.1)
  if Reading.reserved.contains text then
    put (name ++ if isLong then ascii " is a shell keyword" else [])
  else if specials.contains text && text != "command" && text != "type" then
    put (name ++ if isLong then ascii " is a special shell builtin" else [])
  else if s.functions.any (·.1 == text.toList) then
    put (name ++ if isLong then ascii " is a shell function" else [])
  else if specials.contains text || Builtin.ordinary.any (·.1 == text) then
    put (name ++ if isLong then ascii " is a shell builtin" else [])
  else
    match s.program? name with
    | some short =>
      let path := if name.contains (byteOf '/') then name else ascii ("/usr/bin/" ++ short)
      put (if isLong then name ++ ascii " is " ++ path else path)
    | none => do
      if isLong then write 1 (name ++ ascii ": not found\n")
      finish 127

def dispatch (run : Run) (isTested : Bool) (assignments : List (String × Bytes)) :
    (fuel : Nat) → (name : Bytes) → (arguments : List Bytes) → Act Unit
  | 0, _, _ => throw .starved
  | fuel + 1, name, arguments => do
    let text := nameText name
    let builtin? := (Builtin.special.lookup text).or (Builtin.ordinary.lookup text)
    match builtin? with
    | some builtin => do finish (← builtin arguments)
    | none =>
      match text with
      | "eval" =>
        if arguments = [] then finish 0
        else runText run isTested (joinedWith [byteOf ' '] arguments) (ascii "eval: ")
      | "." => source run isTested arguments
      | "type" =>
        for a in arguments do
          describe true a
      | "command" =>
        match arguments with
        | [] => finish 0
        | a :: rest =>
          if a = ascii "-v" ∨ a = ascii "-V" then do
            finish 127
            for n in rest.take 1 do
              describe (a = ascii "-V") n
          else if a = ascii "-p" ∨ a = ascii "--" then
            match rest with
            | n :: rest => dispatch run isTested assignments fuel n rest
            | [] => finish 0
          else dispatch run isTested assignments fuel a rest
      | "exec" =>
        match arguments with
        | [] => finish 0
        | a :: rest => do
          modify fun s => { s with traps := s.traps.filter (·.1 != 0) }
          runProgram run "exec" fuel a rest
          throw .exit
      | _ =>
        inChild run true do
          for (n, v) in assignments do
            modify (·.bind n ⟨some v, true, false⟩)
          runProgram run "" fuel name arguments

def underAssignments (assignments : List (String × Bytes)) (act : Act Unit) : Act Unit := do
  if assignments = [] then act
  else do
    let before := (← get).bindings
    for (n, v) in assignments do
      assign n v
      modify fun s =>
        s.bind n { (s.bindings.lookup n).getD ⟨some v, true, false⟩ with isExported := true }
    ensuring act (modify fun s =>
      { s with bindings := assignments.foldl (fun bs (n, _) =>
          match before.lookup n with
          | some b => bs.filter (·.1 != n) ++ [(n, b)]
          | none => bs.filter (·.1 != n)) s.bindings })

/-- The names of the commands whose assignments stay and whose trouble stops the shell. -/
def isSpecialName (name : String) : Bool :=
  ["eval", ".", "exec"].contains name || Builtin.special.any (·.1 == name)

/-- The values that assignments give, in order. Each sees those before it. -/
def expandAssignments (run : Run) (keeps : Bool) :
    List (List Char × Word) → Act (List (String × Bytes))
  | [] => pure []
  | (name, w) :: rest => do
    let value ← expandWhole (substitute run) w
    let n := String.ofList name
    if keeps then assign n value
    let more ← expandAssignments run keeps rest
    pure ((n, value) :: more)

def runSimple (run : Run) (isTested : Bool) (line : Nat)
    (assignments : List (List Char × Word)) (words : List Word)
    (redirects : List Redirect) : Act Unit := do
  modify fun s => { s with line, substituted := none }
  let fs ← expandWords (substitute run) words
  match fs with
  | [] => do
    let _ ← expandAssignments run true assignments
    let s ← get
    finish (s.substituted.getD 0)
    redirected run redirects (pure ()) (pure ())
    if s.options.showsCommands && assignments != [] then
      let shown := assignments.map fun (n, _) =>
        Utf8.encode n ++ ascii "=" ++ (s.value? (String.ofList n)).getD []
      write 2 (ascii "+ " ++ joinedWith [byteOf ' '] shown ++ ascii "\n")
  | name :: arguments => do
    let text := nameText name
    let special := isSpecialName text
    let values ← expandAssignments run special assignments
    let s ← get
    if s.options.showsCommands then
      let shown := (values.map fun (n, v) => ascii n ++ ascii "=" ++ v) ++ fs
      write 2 (ascii "+ " ++ joinedWith [byteOf ' '] shown ++ ascii "\n")
    if text = "exec" ∧ arguments = [] then do
      if ← redirectAll run redirects then finish 0 else throw .exit
    else
      redirected run redirects (if special then throw .exit else pure ()) do
        match (if special then none else s.functions.lookup text.toList) with
        | some body => underAssignments values (call run isTested body arguments)
        | none =>
          let isBuiltin := Builtin.ordinary.any (·.1 == text) || text = "command" || text = "type"
          if isBuiltin then
            underAssignments values (dispatch run isTested values mostNested name arguments)
          else dispatch run isTested values mostNested name arguments

/-! ## Compound commands -/

/-- Executes one round of a loop and tells whether the loop goes on. -/
def round (act : Act Bool) : Act Bool := do
  let outcome : Except Stop Bool ← tryCatch (do pure (.ok (← act))) fun e => pure (.error e)
  match outcome with
  | .ok goesOn => pure goesOn
  | .error (.leaveLoop n) => if n ≤ 1 then pure false else throw (.leaveLoop (n - 1))
  | .error (.nextRound n) => if n ≤ 1 then pure true else throw (.nextRound (n - 1))
  | .error e => throw e

def counted (act : Act Unit) : Act Unit := do
  modify fun s => { s with loops := s.loops + 1 }
  ensuring act (modify fun s => { s with loops := s.loops - 1 })

/-- Executes rounds as long as the test has the wanted outcome. The status is that of the last body.
-/
def runRounds (run : Run) (isTested wanted : Bool) (test body : Node) :
    (fuel : Nat) → (last : Nat) → Act Unit
  | 0, _ => throw .starved
  | fuel + 1, last => do
    let isDone ← do
      finish last
      let goesOn ← round do
        run true test
        if ((← get).status == 0) == wanted then do
          run isTested body
          pure true
        else do
          finish last
          pure false
      pure !goesOn
    if isDone then pure ()
    else runRounds run isTested wanted test body fuel (← get).status

def runEach (run : Run) (isTested : Bool) (name : String) (body : Node) : List Bytes → Act Unit
  | [] => pure ()
  | v :: vs => do
    assign name v
    let goesOn ← round do
      run isTested body
      pure true
    if goesOn then runEach run isTested name body vs else pure ()

def fitsAny (run : Run) (subject : Bytes) : List Word → Act Bool
  | [] => pure false
  | p :: ps => do
    let gs ← expandPattern (substitute run) p
    if fitsGlyphs gs subject then pure true else fitsAny run subject ps

def runChoice (run : Run) (isTested : Bool) (subject : Bytes) :
    List (List Word × Node) → Act Unit
  | [] => finish 0
  | (ps, body) :: rest => do
    if ← fitsAny run subject ps then do
      finish 0
      run isTested body
    else runChoice run isTested subject rest

/-- Stops the shell after a failure that nothing looks at, if it is told to. -/
def checkFailure (isTested : Bool) : Act Unit := do
  let s ← get
  if s.options.stopsOnFailure && s.status != 0 && !isTested then throw .exit

def step (run : Run) : Run := fun isTested n => do
  match n with
  | .nothing => pure ()
  | .simple line assignments words redirects => do
    runSimple run isTested line assignments words redirects
    runCaught run
    checkFailure isTested
  | .pipeline stages => do
    runStages run none stages
    checkFailure isTested
  | .negation n => do
    run true n
    finish (if (← get).status = 0 then 1 else 0)
  | .both a b => do
    run true a
    if (← get).status = 0 then run isTested b
  | .either a b => do
    run true a
    if (← get).status ≠ 0 then run isTested b
  | .series a b => do
    run isTested a
    run isTested b
  | .background n => do
    let child := (← get).nextProcess
    inChild run false do
      modify (·.connect 0 (.pipe []))
      run false n
    modify fun s =>
      { s with jobs := (child, s.status) :: s.jobs, lastBackground := some child, status := 0 }
  | .redirected n rs => do
    redirected run rs (pure ()) (run isTested n)
    checkFailure isTested
  | .subshell n => do
    inChild run true (run isTested n)
    checkFailure isTested
  | .branch test body otherwise => do
    run true test
    if (← get).status = 0 then run isTested body
    else
      match otherwise with
      | .nothing => finish 0
      | n => run isTested n
  | .loop wanted test body => counted (runRounds run isTested wanted test body mostRounds 0)
  | .each name words body => do
    let vs ← match words with
      | some ws => expandWords (substitute run) ws
      | none => do pure (← get).arguments
    finish 0
    counted (runEach run isTested (String.ofList name) body vs)
  | .choose subject arms => do
    let text ← expandWhole (substitute run) subject
    runChoice run isTested text arms
  | .define name body => do
    modify fun s => { s with functions := (name, body) :: s.functions.filter (·.1 != name) }
    finish 0

/-- Executes commands that are nested no deeper than the fuel allows. -/
def execute : (fuel : Nat) → Run
  | 0 => fun _ _ => throw .starved
  | fuel + 1 => step (execute fuel)

end PackageSweep.Shell
