import PackageSweep.World.Environment

/-!
# References to environment variables

In the text of a configuration, `${NAME}` stands for the value of a variable. The references are the
matches of the regular expression `\$\{([^}]+)\}`, found from left to right and without overlap: a
name is everything up to the next closing brace, but at least one character, so it may hold spaces,
line breaks, dollar signs and opening braces. A reference to a variable that is not set, or whose
value is no text, stays as it is written, and values are not scanned again. That one pass finds
exactly these matches is proved in `Proofs.Config.Scan`.
-/

namespace PackageSweep.Config

/-- What a scan has passed over since the last copied character. -/
inductive Scan where
  /-- Nothing that may begin a reference. -/
  | plain
  /-- A dollar sign. -/
  | dollar
  /-- A dollar sign, a brace, and a name so far in reverse order. -/
  | name (reversed : List Char)

/-- What a scan has passed over, as it was written. -/
def Scan.written : Scan → List Char
  | .plain => []
  | .dollar => ['$']
  | .name reversed => '$' :: '\x7b' :: reversed.reverse

def reference (env : Environment) (name : List Char) : List Char :=
  match env.text? (String.ofList name) with
  | some value => value.toList
  | none => '$' :: '\x7b' :: (name ++ ['\x7d'])

/-- Whether a closing brace follows in a text. -/
def closes (cs : List Char) : Bool := cs.contains '\x7d'

/-- Replaces the references of a text, from a point within a scan on. -/
def expandFrom (env : Environment) : Scan → List Char → List Char
  | scan, [] => scan.written
  | .plain, c :: cs => if c = '$' then expandFrom env .dollar cs else c :: expandFrom env .plain cs
  | .dollar, c :: cs =>
    if c = '\x7b' ∧ cs.head? ≠ some '\x7d' ∧ closes cs then expandFrom env (.name []) cs
    else if c = '$' then '$' :: expandFrom env .dollar cs
    else '$' :: c :: expandFrom env .plain cs
  | .name reversed, c :: cs =>
    if c = '\x7d' then reference env reversed.reverse ++ expandFrom env .plain cs
    else expandFrom env (.name (c :: reversed)) cs

def expand (env : Environment) (text : String) : String :=
  String.ofList (expandFrom env .plain text.toList)

end PackageSweep.Config
