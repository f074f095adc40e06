/-!
The operating systems that a build may be made for.
-/

namespace NativeBuild

/-- An operating system. -/
inductive Platform where
  | linux
  | mac
  | windows
  deriving DecidableEq

/-- A name that stands for no known operating system. -/
structure UnknownPlatform where
  id : String
  deriving DecidableEq

/-- The message for an unknown operating system. -/
def UnknownPlatform.message (u : UnknownPlatform) : String :=
  "unrecognized platform: " ++ u.id

namespace Platform

/-- The operating system that a host calls itself by `id`. -/
def ofHostId (id : String) : Except UnknownPlatform Platform :=
  if id = "linux" ∨ id = "linux2" then .ok .linux
  else if id = "darwin" ∨ id = "macos" ∨ id = "mac" then .ok .mac
  else if id = "win32" ∨ id = "windows" ∨ id = "win" then .ok .windows
  else .error ⟨id⟩

/-- The short name of an operating system. -/
def tag : Platform → String
  | .linux => "linux"
  | .mac => "mac"
  | .windows => "win"

/-- The ending of the names of shared libraries. -/
def sharedExtension : Platform → String
  | .linux => "so"
  | .mac => "dylib"
  | .windows => "dll"

/-- The operating system that builds are started on. -/
def host : Platform := .linux

end Platform

end NativeBuild
