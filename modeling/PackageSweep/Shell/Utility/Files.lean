import PackageSweep.Shell.Utility.Basic

/-!
# Utilities for files

Making, copying, moving, removing and listing.
-/

namespace PackageSweep.Shell.Utility

/-- Goes through operands one after the other and goes on after a complaint. -/
def throughOperands (step : Bytes → World → World × List Writing × Bool)
    (operands : List Bytes) (c : Invocation) : Done :=
  operands.foldl (fun d o =>
    let (w, written, good) := step o d.world
    { d with
      world := w
      written := d.written ++ written
      status := if good then d.status else 1 }) { world := c.world }

def onOperands (step : Bytes → World → World × List Writing × Bool) (p : Parsed) : Utility :=
  fun c =>
  if p.operands = [] then c.misused (ascii "missing operand") else throughOperands step p.operands c

def outcome (c : Invocation) (what : Bytes) (w : World) (r : Except SystemFault World) :
    World × List Writing × Bool :=
  match r with
  | .ok w => (w, [], true)
  | .error e => (w, c.reports (what ++ ascii ": " ++ reason e), false)

def touch : Utility := withOptions "acm" "dtr" fun p c =>
  if p.operands = [] then c.misused (ascii "missing file operand")
  else
    onOperands (fun o w =>
      let path := nameText o
      if w.exists? path || p.has 'c' then (w, [], true)
      else outcome c (ascii "cannot touch " ++ inQuotes o) w (w.writeFile path [])) p c

def mkdir : Utility := withOptions "pv" "m" fun p c =>
  onOperands (fun o w =>
    let what := ascii "cannot create directory " ++ inQuotes o
    if p.has 'p' then
      match w.makeDirectories (nameText o) with
      | (w, none) => (w, [], true)
      | (w, some e) =>
        let paths := World.ancestors (nameText o)
        let isObstacle (a : String) : Bool := w.exists? a && w.entryAt? a != some .directory
        match paths.dropLast.find? isObstacle with
        | some a =>
          (w, c.reports (ascii "cannot create directory " ++ inQuotes (ascii a) ++ ascii ": " ++
            reason .notDirectory), false)
        | none => (w, c.reports (what ++ ascii ": " ++ reason e), false)
    else outcome c what w (w.makeDirectory (nameText o))) p c

def rmdir : Utility := withOptions "pv" "" fun p c =>
  onOperands (fun o w =>
    outcome c (ascii "failed to remove " ++ inQuotes o) w (w.removeDirectory (nameText o))) p c

def isDotPath (o : Bytes) : Bool :=
  match (piecesAt (byteOf '/') o).reverse.find? (· ≠ []) with
  | some last => last == ascii "." || last == ascii ".."
  | none => false

def rm : Utility := withOptions "rRfvdi" "" fun p c =>
  let isRecursive := p.has 'r' || p.has 'R'
  if p.operands = [] then
    if p.has 'f' then { world := c.world } else c.misused (ascii "missing operand")
  else
    throughOperands (fun o w =>
      let what := ascii "cannot remove " ++ inQuotes o
      let path := nameText o
      if isRecursive && isDotPath o then
        (w, c.reports (ascii "refusing to remove '.' or '..' directory: skipping " ++ inQuotes o),
          false)
      else
        match w.find path with
        | .error e =>
          if p.has 'f' && (e == .noEntry || e == .notDirectory) then (w, [], true)
          else (w, c.reports (what ++ ascii ": " ++ reason e), false)
        | .ok (_, .directory) =>
          if isRecursive then outcome c what w (w.removeAll path)
          else if p.has 'd' then outcome c what w (w.removeDirectory path)
          else (w, c.reports (what ++ ascii ": " ++ reason .isDirectory), false)
        | .ok _ => outcome c what w (w.removeFile path)) p.operands c

def lastName (o : Bytes) : Bytes :=
  match (piecesAt (byteOf '/') o).reverse.find? (· ≠ []) with
  | some last => last
  | none => if o = [] then [] else ascii "/"

/-- Where something goes: into a directory under its own name, or to the path itself. -/
def destination (w : World) (source target : Bytes) : Bytes :=
  match w.entryAt? (nameText target) with
  | some .directory =>
    if target.getLast? = some (byteOf '/') then target ++ lastName source
    else target ++ ascii "/" ++ lastName source
  | _ => target

def grafted (t : Tree) (source target : Place) : List (Place × Entry) :=
  t.entries.filterMap fun (place, e) =>
    if source.isPrefixOf place then some (target ++ place.drop source.length, e) else none

def withTarget (p : Parsed) (c : Invocation)
    (step : Bytes → Bytes → World → World × List Writing × Bool) : Done :=
  match p.operands.reverse with
  | [] => c.misused (ascii "missing file operand")
  | [one] => c.misused (ascii "missing destination file operand after " ++ inQuotes one)
  | target :: sources =>
    let isDirectory := c.world.entryAt? (nameText target) == some .directory
    if sources.length > 1 && !isDirectory then
      { status := 1
        written := c.reports (ascii "target " ++ inQuotes target ++ ascii ": " ++
          reason (if c.world.exists? (nameText target) then .notDirectory else .noEntry))
        world := c.world }
    else throughOperands (fun o w => step o (destination w o target) w) sources.reverse c

def cp : Utility := withOptions "rRafpv" "" fun p c =>
  let isRecursive := p.has 'r' || p.has 'R' || p.has 'a'
  withTarget p c fun source target w =>
    match w.find (nameText source) with
    | .error e =>
      (w, c.reports (ascii "cannot stat " ++ inQuotes source ++ ascii ": " ++ reason e), false)
    | .ok (place, .directory) =>
      if !isRecursive then
        (w, c.reports (ascii "-r not specified; omitting directory " ++ inQuotes source), false)
      else
        let what := ascii "cannot create directory " ++ inQuotes target
        match w.locate (nameText target) with
        | .error e => (w, c.reports (what ++ ascii ": " ++ reason e), false)
        | .ok there =>
          if w.tree.isDirectory there.dropLast then
            let tree := (grafted w.tree place there).foldl (fun t (q, e) => t.put q e) w.tree
            (w.withTree tree, [], true)
          else (w, c.reports (what ++ ascii ": " ++ reason .noEntry), false)
    | .ok (_, .sealed e) =>
      (w, c.reports (ascii "cannot open " ++ inQuotes source ++ ascii " for reading: " ++ reason e),
        false)
    | .ok (place, e) =>
      let contents := match e with
        | .file bs => bs
        | _ => []
      if (w.find (nameText target)).toOption.map (·.1) = some place then
        (w, c.reports (inQuotes source ++ ascii " and " ++ inQuotes target ++
          ascii " are the same file"), false)
      else
      outcome c (ascii "cannot create regular file " ++ inQuotes target) w
        (w.writeFile (nameText target) contents)

def mv : Utility := withOptions "fnv" "" fun p c =>
  withTarget p c fun source target w =>
    match w.find (nameText source) with
    | .error e =>
      (w, c.reports (ascii "cannot stat " ++ inQuotes source ++ ascii ": " ++ reason e), false)
    | .ok (place, _) =>
      let what := ascii "cannot move " ++ inQuotes source ++ ascii " to " ++ inQuotes target
      match w.locate (nameText target) with
      | .error e => (w, c.reports (what ++ ascii ": " ++ reason e), false)
      | .ok there =>
        if there = place then
          (w, c.reports (inQuotes source ++ ascii " and " ++ inQuotes target ++
            ascii " are the same file"), false)
        else if place.isPrefixOf there then
          (w, c.reports (ascii "cannot move " ++ inQuotes source ++
            ascii " to a subdirectory of itself, " ++ inQuotes target), false)
        else if w.tree.isDirectory there.dropLast then
          let moved := grafted w.tree place there
          let tree := moved.foldl (fun t (q, e) => t.put q e) ((w.tree.prune place).prune there)
          (w.withTree tree, [], true)
        else (w, c.reports (what ++ ascii ": " ++ reason .noEntry), false)

def listed (p : Parsed) (w : World) (place : Place) : List Bytes :=
  let names := (w.tree.children place).map Utf8.ofString
  let names := if p.has 'a' then [ascii ".", ascii ".."] ++ names else names
  let names := if p.has 'a' || p.has 'A' then names
    else names.filter fun n => n.head? != some (byteOf '.')
  if p.has 'r' then names.reverse else names

def list (p : Parsed) : Utility := fun c =>
  let operands := if p.operands = [] then [ascii "."] else p.operands
  let w := c.world
  let found := operands.map fun o => (o, w.find (nameText o))
  let troubles := found.flatMap fun (o, r) =>
    match r with
    | .ok _ => []
    | .error e => c.reports (ascii "cannot access " ++ inQuotes o ++ ascii ": " ++ reason e)
  let isListed (e : Entry) : Bool := e == .directory && !p.has 'd'
  let single := found.filterMap fun (o, r) =>
    match r with
    | .ok (_, e) => if isListed e then none else some o
    | .error _ => none
  let directories := found.filterMap fun (o, r) =>
    match r with
    | .ok (place, e) => if isListed e then some (o, place) else none
    | .error _ => none
  let listing (x : Bytes × Place) : Bytes :=
    (if operands.length > 1 then x.1 ++ ascii ":\n" else []) ++ ofLines (listed p w x.2)
  let blocks := (if single = [] then [] else [ofLines single]) ++ directories.map listing
  { status := if troubles.isEmpty then 0 else 2
    written := troubles ++ [.out (joinedWith (ascii "\n") blocks)]
    world := w }

def ls : Utility := withOptions "1aAdrFRltS" "" list 2

/-- A name without an ending, unless it is nothing but the ending. -/
def withoutSuffix (suffix name : Bytes) : Bytes :=
  if suffix.isSuffixOf name && name != suffix then name.take (name.length - suffix.length) else name

def basename : Utility := withOptions "a" "s" fun p c =>
  match p.operands, p.has 'a' || p.has 's' with
  | [], _ => c.misused (ascii "missing operand")
  | [o], false => c.prints (ofLines [lastName o])
  | [o, suffix], false => c.prints (ofLines [withoutSuffix suffix (lastName o)])
  | os, true =>
    c.prints (ofLines (os.map fun o => withoutSuffix ((p.value? 's').getD []) (lastName o)))
  | _ :: _ :: o :: _, false => c.misused (ascii "extra operand " ++ inQuotes o)

def directoryName (o : Bytes) : Bytes :=
  let slash := byteOf '/'
  let body := (o.reverse.dropWhile (· == slash)).dropWhile (· != slash)
  match (body.dropWhile (· == slash)).reverse with
  | [] => if o.head? = some slash then [slash] else [byteOf '.']
  | d => d

def dirname : Utility := withOptions "" "" fun p c =>
  if p.operands = [] then c.misused (ascii "missing operand")
  else c.prints (ofLines (p.operands.map directoryName))

def tee : Utility := withOptions "ai" "" fun p c =>
  let done := throughOperands (fun o w =>
    outcome c o w (if p.has 'a' then w.appendFile (nameText o) c.input
      else w.writeFile (nameText o) c.input)) p.operands c
  { done with written := done.written ++ [.out c.input], readsInput := true }

/-- The paths below a directory, each behind the directory that it is in. -/
def below (w : World) : (fuel : Nat) → (path : Bytes) → Place → List (Bytes × Entry)
  | 0, _, _ => []
  | fuel + 1, path, place =>
    (w.tree.children place).flatMap fun n =>
      let here := path ++ byteOf '/' :: Utf8.ofString n
      let e := (w.tree.entryAt? (place ++ [n])).getD .directory
      (here, e) :: if e == .directory then below w fuel here (place ++ [n]) else []

/-- Shows the paths below its operands that have the wanted kind and name. -/
def find : Utility := fun c =>
  let isTest (a : Bytes) : Bool := a.head? == some (byteOf '-')
  let operands := c.arguments.takeWhile fun a => !isTest a
  let operands := if operands = [] then [ascii "."] else operands
  let tests := c.arguments.dropWhile fun a => !isTest a
  let value? (name : String) : Option Bytes := (tests.dropWhile (· ≠ ascii name))[1]?
  let isWanted (path : Bytes) (e : Entry) : Bool :=
    (match value? "-type" with
      | some t => (t == ascii "d") == (e == .directory)
      | none => true) &&
      (value? "-name").all fun pattern => fitsGlyphs (glyphs false pattern) (lastName path)
  throughOperands (fun o w =>
    match w.find (nameText o) with
    | .error e =>
      (w, c.reports (inQuotes o ++ ascii ": " ++ reason e), false)
    | .ok (place, e) =>
      let inside := if e == .directory then below w (w.tree.entries.length + 1) o place else []
      let all := (o, e) :: inside
      (w, [.out (ofLines ((all.filter fun x => isWanted x.1 x.2).map (·.1)))], true)) operands c

/-- Checks only that its operands after the first are there; files have no permissions here. -/
def chmod : Utility := fun c =>
  match c.arguments.filter (· ≠ ascii "-R") with
  | [] => c.misused (ascii "missing operand")
  | [mode] => c.misused (ascii "missing operand after " ++ inQuotes mode)
  | _ :: os =>
    throughOperands (fun o w =>
      match w.find (nameText o) with
      | .ok _ => (w, [], true)
      | .error e =>
        (w, c.reports (ascii "cannot access " ++ inQuotes o ++ ascii ": " ++ reason e), false)) os c

end PackageSweep.Shell.Utility
