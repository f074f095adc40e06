import NativeBuild.Manifest.Reader
import NativeBuild.Manifest.Writer

/-!
Which manifests a build accepts, and loading one from a file.
-/

namespace NativeBuild

namespace Manifest

/-- Why a manifest that can be read is refused. -/
inductive Refusal where
  | duplicateTarget (name : String)
  | unknownTarget (target name : String)
  | platform (unknown : UnknownPlatform)
  deriving DecidableEq

namespace Refusal

/-- The message for a refused manifest. -/
def message : Refusal → String
  | .duplicateTarget name => "target '" ++ name ++ "' is defined more than once"
  | .unknownTarget target name =>
    "target '" ++ target ++ "' links '" ++ name ++ "', which is not defined before it"
  | .platform unknown => "invalid platform in manifest: " ++ unknown.message

/-- The messages of what lies behind a refusal. -/
def causes : Refusal → List String
  | .platform unknown => [unknown.message]
  | _ => []

end Refusal

/-- The operating system that a library entry names, if it names one. -/
def LibraryEntry.os? : LibraryEntry → Option String
  | .linker _ os => os
  | _ => none

/-- The fault of a list of operating systems: the first that is unknown. -/
def checkPlatforms : List LibraryEntry → Except Refusal Unit
  | [] => .ok ()
  | entry :: rest =>
    match entry.os? with
    | none => checkPlatforms rest
    | some id =>
      match Platform.ofHostId id with
      | .ok _ => checkPlatforms rest
      | .error unknown => .error (.platform unknown)

/-- Check one target after those with the given names: what it links, then its libraries, then its
own name. -/
def checkTarget (seen : List String) (t : Target) : Except Refusal Unit :=
  match t.link.find? fun name => !seen.contains name with
  | some name => .error (.unknownTarget t.name name)
  | none =>
    match checkPlatforms t.libraries with
    | .error e => .error e
    | .ok () => if seen.contains t.name then .error (.duplicateTarget t.name) else .ok ()

/-- Check targets after those with the given names. -/
def checkFrom (seen : List String) : List Target → Except Refusal Unit
  | [] => .ok ()
  | t :: rest =>
    match checkTarget seen t with
    | .error e => .error e
    | .ok () => checkFrom (t.name :: seen) rest

/-- Check a manifest: names are given once, links name earlier targets, and operating systems are
known. -/
def check (m : Manifest) : Except Refusal Unit :=
  checkFrom [] m.targets

/-- Why a manifest cannot be loaded from a file. -/
inductive LoadError where
  | unreadable (path : Path) (cause : IoError)
  | unparsable (path : Path) (fault : Json.Fault)
  | refused (refusal : Refusal)
  deriving DecidableEq

/-- Load a manifest: read the file, make sense of the text, and check the manifest. -/
def load (m : Machine) (path : Path) : Except LoadError Manifest :=
  match m.files.readText m.place path with
  | .error cause => .error (.unreadable path cause)
  | .ok text =>
    match parse text with
    | .error fault => .error (.unparsable path fault)
    | .ok manifest =>
      match manifest.check with
      | .error refusal => .error (.refused refusal)
      | .ok () => .ok manifest

/-- The library that an entry stands for; a name to look up is looked up. -/
def LibraryEntry.toLibrary (m : Machine) (dirs : List Path) :
    LibraryEntry → Except Refusal Library
  | .prebuilt name => .ok (.prebuilt (findLibrary m dirs name))
  | .linker name none => .ok (.linker name none)
  | .linker name (some id) =>
    match Platform.ofHostId id with
    | .ok platform => .ok (.linker name (some platform))
    | .error unknown => .error (.platform unknown)
  | .config command => .ok (.config command)

end Manifest

end NativeBuild
