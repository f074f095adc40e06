import NativeBuild.Path.Absolute
import NativeBuild.Settings

/-!
Where the parts of a project lie below its root.
-/

namespace NativeBuild

/-- The directories of a project. -/
structure Layout where
  root : Path
  sourceDir : Path
  buildDir : Path
  objectDir : Path
  generatedDir : Path
  includeDir : Path
  binDir : Path
  libDir : Path
  deriving DecidableEq

namespace Layout

/-- A directory that a setting moves, seen from the root. -/
def moved? (here root : Path) (setting : Option String) : Option Path :=
  (Settings.given? setting).map fun text => (root.child text).absolute here

/-- The layout of the project at `root`; the settings may move the build and the object directory.
-/
def ofRoot (here : Path) (settings : Settings) (root : Path) : Layout :=
  let root := root.absolute here
  let prebuilt := root.child "third_party"
  let buildDir := (moved? here root settings.buildDir).getD (root.child "build")
  { root
    sourceDir := root.child "src"
    buildDir
    objectDir := (moved? here root settings.objectDir).getD (buildDir.child "obj")
    generatedDir := root.child "generated"
    includeDir := prebuilt.child "include"
    binDir := prebuilt.child "bin"
    libDir := prebuilt.child "lib" }

/-- The directories in which libraries are looked for, in this order. -/
def librarySearchPaths (l : Layout) : List Path :=
  [l.libDir, l.buildDir]

end Layout

end NativeBuild
