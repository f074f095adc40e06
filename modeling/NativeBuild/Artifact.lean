import NativeBuild.Toolchain

/-!
What a build links, and the arguments that link it.
-/

namespace NativeBuild

/-- The kinds of files that are linked. -/
inductive ArtifactKind where
  | executable
  | sharedLibrary
  deriving DecidableEq

namespace ArtifactKind

/-- Flags that select the kind of file. -/
def flags (kind : ArtifactKind) (platform : Platform) : List String :=
  match kind, platform with
  | .executable, _ => []
  | .sharedLibrary, .mac =>
    ["-Wl,-flat_namespace", "-Wl,-undefined,suppress", "-dynamiclib"]
  | .sharedLibrary, _ => ["-shared"]

end ArtifactKind

/-- Flags for the linker of an operating system: where libraries are searched for at run time, what
is stripped, and when names are bound. -/
def Platform.linkFlags (platform : Platform) (libDir : Path) : List String :=
  match platform with
  | .linux => ["-Wl,-z,now", "-Wl,-rpath=" ++ libDir.text, "-Wl,-gc-sections", "-Wl,-E"]
  | .mac => ["-Xlinker", "-rpath", "-Xlinker", libDir.text, "-Wl,-dead_strip"]
  | .windows => []

/-- The arguments that link `objects` and libraries into `output`. -/
def Toolchain.linkArgs (t : Toolchain) (libDir : Path) (kind : ArtifactKind) (output : Path)
    (sources objects : List Path) (libraries : List String) : List String :=
  t.baseFlags ++ t.stdlibFlags ++ kind.flags t.platform ++
    ["-o", output.text, "-L" ++ libDir.text] ++ t.platform.linkFlags libDir ++
    sources.map Path.text ++ objects.map Path.text ++ libraries

end NativeBuild
