import PackageSweep.Text.Lowercase

/-!
# Platforms

The operating system that a sweep runs on, by its name in lower case.
-/

namespace PackageSweep

structure Platform where
  os : String
  deriving DecidableEq

namespace Platform

def ofName (name : String) : Platform := ⟨String.ofList (Text.lower name.toList)⟩

def isWindows (p : Platform) : Bool := p.os == "windows"

def linux : Platform := ⟨"linux"⟩

end Platform

end PackageSweep
