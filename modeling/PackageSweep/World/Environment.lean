import PackageSweep.Text.Utf8

/-!
# Environment variables

An environment is a list of variables in the order in which they were set. Values are bytes. Looking
a name up compares the written form `NAME=VALUE` with the name and an equals sign, so for a name
without an equals sign it finds the variable of exactly that name.
-/

namespace PackageSweep

structure Environment where
  pairs : List (String × Bytes)

namespace Environment

def empty : Environment := ⟨[]⟩

def equalsSign : UInt8 := 0x3d

def written (name : String) (value : Bytes) : Bytes :=
  Utf8.ofString name ++ equalsSign :: value

/-- What the written form of a variable has after a name and the equals sign. -/
def valueIn? (name : String) (v : String × Bytes) : Option Bytes :=
  let key := written name []
  let text := written v.1 v.2
  if key.isPrefixOf text then some (text.drop key.length) else none

/-- The bytes of the variable with this name. -/
def bytes? (env : Environment) (name : String) : Option Bytes :=
  if name.isEmpty then none else env.pairs.findSome? (valueIn? name)

/-- The text of the variable with this name, if its bytes are UTF-8. -/
def text? (env : Environment) (name : String) : Option String :=
  ((env.bytes? name).bind Utf8.decode).map String.ofList

def isName (name : String) : Bool :=
  !name.isEmpty && name.toList.all fun c => c != '=' && c != '\x00'

def unset (name : String) (env : Environment) : Environment :=
  ⟨env.pairs.filter (·.1 != name)⟩

/-- Sets a variable. A name or value that no variable can have changes nothing. -/
def set (name : String) (value : Bytes) (env : Environment) : Environment :=
  if isName name && !value.contains 0 then
    ⟨(env.unset name).pairs ++ [(name, value)]⟩
  else env

end Environment

end PackageSweep
