import PackageSweep.Json.Value
import PackageSweep.Text.Quoted

/-!
# Writing JSON

Two layouts: `compact` has no white space, `pretty` puts every item and member on a line of its own,
indented by two spaces a level. Texts escape quotes, backslashes and control characters only.
-/

namespace PackageSweep.Json

/-- The hexadecimal numeral of a control character, two digits wide. -/
def controlNumeral (c : Char) : List Char :=
  [(c.toNat / 16).digitChar, (c.toNat % 16).digitChar]

def escaped (c : Char) : List Char :=
  if c = '"' then ['\\', '"']
  else if c = '\\' then ['\\', '\\']
  else if c = '\n' then ['\\', 'n']
  else if c = '\r' then ['\\', 'r']
  else if c = '\t' then ['\\', 't']
  else if c = '\x08' then ['\\', 'b']
  else if c = '\x0c' then ['\\', 'f']
  else if c.toNat < 0x20 then ['\\', 'u', '0', '0'] ++ controlNumeral c
  else [c]

def quotedText (s : String) : List Char := '"' :: (s.toList.flatMap escaped ++ ['"'])

namespace Value

mutual

def compact : Value → List Char
  | .null => "null".toList
  | .bool true => "true".toList
  | .bool false => "false".toList
  | .number spelling => spelling
  | .text s => quotedText s
  | .array [] => ['[', ']']
  | .array (v :: vs) => '[' :: (v.compact ++ compactItems vs)
  | .object [] => ['\x7b', '\x7d']
  | .object ((k, v) :: ms) =>
    '\x7b' :: (quotedText k ++ ':' :: (v.compact ++ compactMembers ms))

def compactItems : List Value → List Char
  | [] => [']']
  | v :: vs => ',' :: (v.compact ++ compactItems vs)

def compactMembers : List (String × Value) → List Char
  | [] => ['\x7d']
  | (k, v) :: ms => ',' :: (quotedText k ++ ':' :: (v.compact ++ compactMembers ms))

end

def newLine (level : Nat) : List Char := '\n' :: List.replicate (2 * level) ' '

mutual

/-- The layout with one item or member a line, for a value at the given level. -/
def pretty (level : Nat) : Value → List Char
  | .null => "null".toList
  | .bool true => "true".toList
  | .bool false => "false".toList
  | .number spelling => spelling
  | .text s => quotedText s
  | .array [] => ['[', ']']
  | .array (v :: vs) =>
    '[' :: (newLine (level + 1) ++ v.pretty (level + 1) ++ prettyItems level vs)
  | .object [] => ['\x7b', '\x7d']
  | .object ((k, v) :: ms) =>
    '\x7b' :: (newLine (level + 1) ++ quotedText k ++ ':' :: ' ' :: v.pretty (level + 1) ++
      prettyMembers level ms)

def prettyItems (level : Nat) : List Value → List Char
  | [] => newLine level ++ [']']
  | v :: vs => ',' :: (newLine (level + 1) ++ v.pretty (level + 1) ++ prettyItems level vs)

def prettyMembers (level : Nat) : List (String × Value) → List Char
  | [] => newLine level ++ ['\x7d']
  | (k, v) :: ms =>
    ',' :: (newLine (level + 1) ++ quotedText k ++ ':' :: ' ' :: v.pretty (level + 1) ++
      prettyMembers level ms)

end

end Value

end PackageSweep.Json
