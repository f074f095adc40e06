import NativeBuild.Machine.Basic
import NativeBuild.Path.Absolute

/-!
Sets of source files, gathered from directories and by name.
-/

namespace NativeBuild

/-- A set of absolute paths in ascending order.  Of paths that are the same, the first one added
stays as it was written. -/
structure SourceSet where
  extension : List Char
  files : List Path

namespace SourceSet

/-- Add a path to an ascending list, unless it is there. -/
def insert (p : Path) : List Path → List Path
  | [] => [p]
  | q :: rest =>
    if p.before q then p :: q :: rest
    else if q.before p then q :: insert p rest
    else q :: rest

/-- The empty set; files that directories add must have the extension, which may be given with dots
in front. -/
def empty (extension : String) : SourceSet :=
  ⟨extension.toList.dropWhile (· = '.'), []⟩

/-- Add one file, whatever its name. -/
def addFile (here : Path) (s : SourceSet) (p : Path) : SourceSet :=
  { s with files := insert (p.absolute here) s.files }

/-- Whether what a path names is a file of the set: a regular file, not a link, with the extension.
-/
def accepts (s : SourceSet) (p : Path) (e : Entry) : Bool :=
  e.isRegular && p.extension? == some s.extension

/-- Add the files directly inside a directory that have the extension.  Without a directory nothing
is added. -/
def addDirectory (m : Machine) (s : SourceSet) (dir : Path) : SourceSet :=
  match m.files.listing m.place dir with
  | .error _ => s
  | .ok inside =>
    let entries := inside.map fun (name, e) => (dir.append name, e)
    let found := entries.filter fun (p, e) => s.accepts p e
    found.foldl (fun s (p, _) => s.addFile m.here p) s

end SourceSet

/-- The files directly inside a directory that have an extension, in ascending order. -/
def findFiles (m : Machine) (dir : Path) (extension : String) : List Path :=
  ((SourceSet.empty extension).addDirectory m dir).files

end NativeBuild
