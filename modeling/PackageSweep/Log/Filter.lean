import PackageSweep.Log.Event
import PackageSweep.Text.Blank
import PackageSweep.Text.Pieces

/-!
# Log filters

A filter is a list of directives. A directive lets events through from some level on, either all
events or those whose target begins with its own. The most specific directive that fits decides, and
of two with the same target the later one.
-/

namespace PackageSweep

/-- The least level that passes, if any level does. -/
inductive Threshold where
  | off
  | from (least : Level)
  deriving DecidableEq

def Threshold.admits : Threshold → Level → Bool
  | .off, _ => false
  | .from least, l => least.rank ≤ l.rank

structure Directive where
  target : Option (List Char)
  threshold : Threshold
  deriving DecidableEq

structure Filter where
  directives : List Directive

namespace Threshold

def ofNumber? : Nat → Option Threshold
  | 0 => some .off
  | 1 => some (.from .error)
  | 2 => some (.from .warn)
  | 3 => some (.from .info)
  | 4 => some (.from .debug)
  | 5 => some (.from .trace)
  | _ => none

def ofName? (cs : List Char) : Option Threshold :=
  match String.ofList (cs.map Char.toLower) with
  | "off" => some .off
  | "error" => some (.from .error)
  | "warn" => some (.from .warn)
  | "info" => some (.from .info)
  | "debug" => some (.from .debug)
  | "trace" => some (.from .trace)
  | _ => none

def read? (cs : List Char) : Option Threshold :=
  match Text.word? cs with
  | some n => ofNumber? n
  | none => ofName? cs

end Threshold

namespace Directive

def covers (d : Directive) (target : List Char) : Bool :=
  match d.target with
  | some t => t.isPrefixOf target
  | none => true

def weight (d : Directive) : Nat :=
  match d.target with
  | some t => (Utf8.encode t).length + 1
  | none => 0

def mayBegin (c : Char) : Bool :=
  c.isAlphanum || c == '-' || c == ':' || c == '_' || c == '[' || 0x80 ≤ c.toNat

/-- The threshold after an equals sign. Without a name every level passes. -/
def threshold? : List Char → Option Threshold
  | [] => some (.from .trace)
  | cs => Threshold.read? cs

/-- A directive in text, and whether it speaks of spans only, which no event is in. -/
def read? (cs : List Char) : Option (Directive × Bool) :=
  let target := cs.takeWhile fun c => c != '=' && c != '['
  match cs.dropWhile fun c => c != '=' && c != '[' with
  | '=' :: level => (threshold? level).map fun t => (⟨some target, t⟩, false)
  | '[' :: rest =>
    match rest.dropWhile (· != ']') with
    | [']'] => some (⟨none, .off⟩, true)
    | ']' :: '=' :: level => (threshold? level).map fun _ => (⟨none, .off⟩, true)
    | _ => none
  | _ =>
    match Threshold.read? target with
    | some t => some (⟨none, t⟩, false)
    | none => some (⟨some target, .from .trace⟩, false)

end Directive

namespace Filter

/-- The filter written in a text: directives between commas. Without any, errors pass. -/
def read? (text : String) : Option Filter :=
  let written := (Text.pieces (· == ',') text.toList).filter (!·.isEmpty)
  let readAll := (written.map Text.trim).mapM fun cs =>
    match cs with
    | [] => Directive.read? []
    | c :: _ => if Directive.mayBegin c then Directive.read? cs else none
  readAll.map fun ds =>
    if ds.isEmpty then ⟨[⟨none, .from .error⟩]⟩
    else ⟨(ds.filter (!·.2)).map (·.1)⟩

def deciding? (f : Filter) (target : List Char) : Option Directive :=
  (f.directives.filter (·.covers target)).foldl (fun best d =>
    match best with
    | some b => if b.weight ≤ d.weight then some d else some b
    | none => some d) none

def admits (f : Filter) (e : Event) : Bool :=
  match f.deciding? e.target.toList with
  | some d => d.threshold.admits e.level
  | none => false

def ownTarget : List Char := "workspace_run".toList

def standard (verbose : Bool) : Filter :=
  if verbose then ⟨[⟨some ownTarget, .from .debug⟩, ⟨none, .from .info⟩]⟩
  else ⟨[⟨some ownTarget, .from .info⟩]⟩

def variableName : String := "RUST_LOG"

/-- The filter in force: the one from the environment if it can be read, else the standard one. -/
def inForce (env : Environment) (verbose : Bool) : Filter :=
  match (env.text? variableName).bind read? with
  | some f => f
  | none => standard verbose

end Filter

end PackageSweep
