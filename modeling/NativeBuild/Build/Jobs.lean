import NativeBuild.Artifact
import NativeBuild.Library
import NativeBuild.ObjectKey
import NativeBuild.Pool.Task

/-!
The two jobs of a build: compiling one source, and linking one artifact.
-/

namespace NativeBuild

/-- Work on a machine. -/
abbrev Job := Work Machine

/-- The part of a job that makes a directory and those above it that are missing. -/
def ensureDirectory (p : Path) (m : Machine) : Machine × Except Failure String :=
  match m.makeDirectories p with
  | (m, .ok ()) => (m, .ok "")
  | (m, .error e) => (m, .error (.io e))

/-- The job that runs one command. -/
def Command.job (run : Runner) (c : Command) : Job :=
  .act (run c) fun printed => .done (printed.map fun _ => ())

/-- The compilation of a source. -/
structure Compilation where
  key : ObjectKey
  object : Path
  command : Command

namespace Compilation

/-- The compilation that a key asks for: its object goes into the object directory, under the name
that the key gives it. -/
def of (toolchain : Toolchain) (objectDir : Path) (key : ObjectKey) : Compilation :=
  let object := objectDir.child key.objectName
  { key, object
    command := ⟨toolchain.cxx, toolchain.compileArgs key.source object key.flags⟩ }

/-- The task of a compilation. -/
def spec (c : Compilation) : TaskSpec :=
  ⟨"compile " ++ c.key.source.text, some c.object, []⟩

/-- The job of a compilation: the directory of the object is made, then the compiler runs. -/
def job (run : Runner) (c : Compilation) : Job :=
  match c.object.above? with
  | none => c.command.job run
  | some dir =>
    .act (ensureDirectory dir) fun
      | .ok _ => c.command.job run
      | .error e => .done (.error e)

end Compilation

/-- What a target is linked from: objects of its own sources, other objects, and libraries. -/
structure LinkInputs where
  sources : List PathRef
  objects : List PathRef
  libraries : List Library

/-- The linking of an artifact. -/
structure Linking where
  toolchain : Toolchain
  libDir : Path
  kind : ArtifactKind
  output : Path
  inputs : LinkInputs

namespace Linking

/-- The task of a linking.  It needs the sources' objects first and then the others. -/
def spec (l : Linking) : TaskSpec :=
  ⟨"link " ++ l.output.text, some l.output, l.inputs.sources ++ l.inputs.objects⟩

/-- The command that links, given the paths of the inputs and the arguments of the libraries. -/
def command (l : Linking) (inputs : List Path) (libraryArgs : List String) : Command :=
  let count := l.inputs.sources.length
  ⟨l.toolchain.cxx, l.toolchain.linkArgs l.libDir l.kind l.output (inputs.take count)
    (inputs.drop count) libraryArgs⟩

/-- Gather the arguments of libraries, running their commands in turn, and go on with all of them.
-/
def withLibraries (run : Runner) (host : Platform) (next : List String → Job) :
    List Library → List String → Job
  | [], args => next args
  | library :: rest, args =>
    match library.command? with
    | none => withLibraries run host next rest (args ++ library.args host (.ok ""))
    | some c =>
      .act (run c) fun printed =>
        withLibraries run host next rest (args ++ library.args host printed)

/-- The job of a linking: the libraries' arguments are gathered, then the linker runs. -/
def job (run : Runner) (l : Linking) (inputs : List Path) : Job :=
  withLibraries run l.toolchain.platform (fun args => (l.command inputs args).job run)
    l.inputs.libraries []

end Linking

end NativeBuild
