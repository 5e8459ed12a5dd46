import PackageSweep.Config.Basic
import PackageSweep.Platform
import PackageSweep.World.Basic

/-!
# Packages that are passed over

A package is passed over on a platform that it does not build on, or when the command needs a
manifest that is not there. The platform is looked at first.
-/

namespace PackageSweep

/-- Why a package is passed over. -/
inductive SkipReason where
  | windowsOnly
  | missingManifest (manifest : String)
  deriving DecidableEq

def SkipReason.text : SkipReason → String
  | .windowsOnly => "it only builds on Windows"
  | .missingManifest manifest => "`" ++ manifest ++ "` not exist"

/-- Where the manifest of a package has to be. -/
def Config.manifestPath (c : Config) (root directory : String) : String :=
  Directory.entry (Directory.resolve root directory) c.manifestName

/-- Why a package is passed over in a world, if it is. -/
def skipReason (c : Config) (platform : Platform) (root directory command : String) (w : World) :
    Option SkipReason :=
  if !platform.isWindows && c.isWindowsOnly directory then some .windowsOnly
  else if c.isManifestCommand command && !w.exists? (c.manifestPath root directory) then
    some (.missingManifest c.manifestName)
  else none

end PackageSweep
