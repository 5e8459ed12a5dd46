/-!
# JSON values

A number keeps its spelling. An object keeps all its members in the order written; of members with
one name the last counts.
-/

namespace PackageSweep.Json

inductive Value where
  | null
  | bool (b : Bool)
  | number (spelling : List Char)
  | text (s : String)
  | array (items : List Value)
  | object (members : List (String × Value))
  deriving Inhabited

namespace Value

/-- The member of an object with this name. Other values have no members. -/
def field? (name : String) : Value → Option Value
  | .object members => members.reverse.lookup name
  | _ => none

def text? : Value → Option String
  | .text s => some s
  | _ => none

end Value

end PackageSweep.Json
