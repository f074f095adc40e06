import NativeBuild.Machine.Runner
import NativeBuild.Platform
import NativeBuild.Path.Absolute

/-!
Libraries: where they are found, and what they add to the arguments of the linker.
-/

namespace NativeBuild

/-- The endings of library files, in the order in which they are tried. -/
def libraryExtensions : List String :=
  ["o", "bc", "so", "dylib", "a"]

/-- What may stand in front of the name of a library file, in the order in which it is tried. -/
def libraryLeads : List String :=
  ["lib", ""]

/-- The files that may hold the library `name`, in the order in which they are tried. -/
def libraryCandidates (dirs : List Path) (name : String) : List Path :=
  dirs.flatMap fun dir =>
    libraryExtensions.flatMap fun ext =>
      libraryLeads.map fun lead => dir.child (lead ++ name ++ "." ++ ext)

/-- Find a library: the path that the name is, if something is there; else the first candidate at
which something is; else the name as it stands, which is left to the linker. -/
def findLibrary (m : Machine) (dirs : List Path) (name : String) : Path :=
  let direct := (Path.ofString name).absolute m.here
  if m.has direct then direct
  else ((libraryCandidates dirs name).find? m.has).getD (Path.ofString name)

/-- A library for the linker: a file, a name that the linker looks up on one operating system or on
all, or a command that prints arguments. -/
inductive Library where
  | prebuilt (p : Path)
  | linker (name : String) (platform : Option Platform)
  | config (command : List String)
  deriving DecidableEq

/-- The command of a list of words, if there is a word. -/
def Command.ofWords? : List String → Option Command
  | [] => none
  | program :: args => some ⟨Path.ofString program, args⟩

namespace Library

/-- The command that a library needs to be run, if it needs one. -/
def command? : Library → Option Command
  | .config words => Command.ofWords? words
  | _ => none

/-- What a library adds to the arguments of the linker on `host`, given what its command printed.  A
command that failed adds nothing, and neither does a library for another operating system. -/
def args (host : Platform) (printed : Except Failure String) : Library → List String
  | .prebuilt p => [p.text]
  | .linker name platform => if platform = none ∨ platform = some host then ["-l" ++ name] else []
  | .config _ =>
    match printed with
    | .ok output => (Text.words output.toList).map String.ofList
    | .error _ => []

/-- What a library adds to the arguments of the linker, with its command run if it has one. -/
def linkerArgs (run : Runner) (host : Platform) (m : Machine) (l : Library) :
    Machine × List String :=
  match l.command? with
  | some c =>
    let (m, printed) := run c m
    (m, l.args host printed)
  | none => (m, l.args host (.ok ""))

end Library

end NativeBuild
