import NativeBoundary.Json.Basic
import NativeBoundary.Tag

/-!
# Build settings

The two settings of a build, as the values that were given: the version that is mixed into the
checksum, and the namespace used when no document declares one.
-/

namespace NativeBoundary

structure Settings where
  version : Json := .null
  space : Json := .null
  deriving DecidableEq

namespace Settings

def versionTag (settings : Settings) : Option Tag := Tag.ofJson? settings.version

def spaceTag (settings : Settings) : Option Tag := Tag.ofJson? settings.space

def toJson (settings : Settings) : Json :=
  .object [("generator_version", settings.version), ("namespace", settings.space)]

end Settings

end NativeBoundary
