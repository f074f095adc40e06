import NativeBuild.Artifact
import NativeBuild.Library
import NativeBuild.Manifest.Defines

/-!
Manifests: what a project builds, and with what.
-/

namespace NativeBuild

namespace Manifest

/-- What a manifest adds to the toolchain. -/
structure Tools where
  cxx : Option Path
  cc : Option Path
  flags : List String
  defines : Defines
  deriving DecidableEq

/-- The sources of a target: directories to look in, files by name, the extension that files in the
directories must have, and flags for compiling. -/
structure Sources where
  dirs : List Path
  files : List Path
  extension : String
  flags : List String
  deriving DecidableEq

/-- A library that a target is linked with: one that is looked up by name, one that is left to the
linker, for one operating system or for all, or a command that prints arguments. -/
inductive LibraryEntry where
  | prebuilt (name : String)
  | linker (name : String) (os : Option String)
  | config (command : List String)
  deriving DecidableEq

/-- A file to link: its name in the manifest, its kind and place, what it is linked from, and the
argument lists that it is run with. -/
structure Target where
  name : String
  kind : ArtifactKind
  output : Path
  sources : Sources
  objects : List String
  link : List String
  libraries : List LibraryEntry
  run : List (List String)
  deriving DecidableEq

namespace Tools

/-- Nothing to add. -/
def none : Tools :=
  ⟨.none, .none, [], Defines.empty⟩

/-- A program that a manifest names: a bare name is left as it is, and a path is seen from `base`.
-/
def programPath (here base program : Path) : Path :=
  if 1 < program.components.length then program.resolveAgainst here base else program

/-- A toolchain with everything that a manifest adds. -/
def apply (tools : Tools) (here base : Path) (t : Toolchain) : Toolchain :=
  let t := match tools.cxx with
    | some cxx => { t with cxx := programPath here base cxx }
    | Option.none => t
  let t := match tools.cc with
    | some cc => { t with cc := programPath here base cc }
    | Option.none => t
  tools.defines.entries.foldl (fun t e => t.addDefine e.1 e.2) (t.addFlags tools.flags)

end Tools

namespace Sources

/-- The extension of sources if none is given. -/
def defaultExtension : String := "cpp"

/-- No sources. -/
def none : Sources :=
  ⟨[], [], defaultExtension, []⟩

end Sources

end Manifest

/-- A manifest. -/
structure Manifest where
  toolchain : Manifest.Tools
  targets : List Manifest.Target
  deriving DecidableEq

end NativeBuild
