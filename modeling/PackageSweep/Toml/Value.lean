/-!
# TOML values

A table remembers how it came to be, because that decides who may add to it. Floats and dates keep
their spelling only: no part of a package list or manifest is one.
-/

namespace PackageSweep.Toml

/-- How a table came to be. -/
inductive Origin where
  /-- By a header of its own, or as the root. -/
  | header
  /-- By a header of a table below it. -/
  | implied
  /-- By a dotted key. -/
  | dotted
  /-- Between braces. -/
  | inline
  deriving DecidableEq

inductive Value where
  | text (s : String)
  | integer (n : Int)
  | float (spelling : List Char)
  | boolean (b : Bool)
  | moment (spelling : List Char)
  /-- An array between brackets. -/
  | array (items : List Value)
  /-- An array of tables, each begun by a header in double brackets. -/
  | tables (items : List Value)
  | table (origin : Origin) (entries : List (String × Value))
  deriving Inhabited

abbrev Entries := List (String × Value)

namespace Value

/-- The entry of a table under this key. Other values have no entries. -/
def field? (key : String) : Value → Option Value
  | .table _ entries => entries.lookup key
  | _ => none

def text? : Value → Option String
  | .text s => some s
  | _ => none

def boolean? : Value → Option Bool
  | .boolean b => some b
  | _ => none

def items? : Value → Option (List Value)
  | .array items => some items
  | .tables items => some items
  | _ => none

mutual

def allIntegers (p : Int → Bool) : Value → Bool
  | .integer n => p n
  | .array items => allIntegersIn p items
  | .tables items => allIntegersIn p items
  | .table _ entries => allIntegersUnder p entries
  | _ => true

def allIntegersIn (p : Int → Bool) : List Value → Bool
  | [] => true
  | v :: vs => v.allIntegers p && allIntegersIn p vs

def allIntegersUnder (p : Int → Bool) : List (String × Value) → Bool
  | [] => true
  | (_, v) :: es => v.allIntegers p && allIntegersUnder p es

end

end Value

end PackageSweep.Toml
