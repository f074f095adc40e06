import NativeBuild.Build.Basic
import NativeBuild.Manifest.Check
import NativeBuild.SourceSet

/-!
Declaring the targets of a manifest.  Nothing is waited for: each target becomes tasks, and later
targets may need the artifacts of earlier ones.
-/

namespace NativeBuild

/-- A declared target: its name in the manifest, the artifact, and the argument lists to run it
with. -/
structure DeclaredTarget where
  name : String
  target : LinkTarget
  runs : List (List String)
  deriving DecidableEq

/-- Why targets could not be declared. -/
inductive DeclareError where
  | refused (refusal : Manifest.Refusal)
  | failed (failure : Failure)
  deriving DecidableEq

namespace DeclareError

/-- The message for targets that could not be declared. -/
def message : DeclareError → String
  | .refused r => r.message
  | .failed f => f.message

/-- The messages of what lies behind it. -/
def causes : DeclareError → List String
  | .refused r => r.causes
  | .failed f => f.causes

end DeclareError

namespace Build

/-- The build of the project at `root` with what its manifest adds to the toolchain. -/
def forProject (run : Runner) (m : Machine) (settings : Settings) (root : Path)
    (manifest : Manifest) (config : PoolConfig) : Build :=
  let layout := Layout.ofRoot m.here settings root
  let toolchain := Toolchain.default m settings layout Platform.host
  start run m layout (manifest.toolchain.apply m.here layout.root toolchain) config

/-- Set up the build of the project at `root`, unless setting up its pool panics. -/
def forProject? (limit : Nat) (run : Runner) (m : Machine) (settings : Settings) (root : Path)
    (manifest : Manifest) (config : PoolConfig) : Option Build :=
  let layout := Layout.ofRoot m.here settings root
  let toolchain := Toolchain.default m settings layout Platform.host
  start? limit run m layout (manifest.toolchain.apply m.here layout.root toolchain) config

/-- The sources of a target: the files in its directories and those it names. -/
def sourcesOf (b : Build) (s : Manifest.Sources) : List Path :=
  let m := b.machine
  let rooted (p : Path) : Path := p.resolveAgainst m.here b.layout.root
  let found := s.dirs.foldl (fun set dir => SourceSet.addDirectory m set (rooted dir))
    (SourceSet.empty s.extension)
  (s.files.foldl (fun set file => SourceSet.addFile m.here set (rooted file)) found).files

/-- The artifacts of earlier targets, by their names; `target` is the one that names them. -/
def artifactsOf (declared : List DeclaredTarget) (target : String) :
    List String → Except Manifest.Refusal (List PathRef)
  | [] => .ok []
  | name :: rest => do
    let d ← match declared.find? fun d => d.name == name with
      | some d => .ok d
      | none => .error (.unknownTarget target name)
    let more ← artifactsOf declared target rest
    .ok (d.target.artifact :: more)

/-- The libraries of a target: its prebuilt objects, found by name, and then its library entries. -/
def librariesOf (b : Build) (t : Manifest.Target) : Except Manifest.Refusal (List Library) := do
  let entries ← t.libraries.mapM fun e => e.toLibrary b.machine b.layout.librarySearchPaths
  .ok (t.objects.map (fun name => .prebuilt (b.findLibrary name)) ++ entries)

/-- What a target is linked from.  Its sources are asked for on the way. -/
def linkInputs (b : Build) (declared : List DeclaredTarget) (t : Manifest.Target) :
    Build × Except DeclareError LinkInputs :=
  match b.compileAll t.sources.flags (b.sourcesOf t.sources) with
  | (b, .error e) => (b, .error (.failed e))
  | (b, .ok sources) =>
    let inputs : Except Manifest.Refusal LinkInputs := do
      let objects ← artifactsOf declared t.name t.link
      let libraries ← b.librariesOf t
      .ok ⟨sources, objects, libraries⟩
    (b, inputs.mapError .refused)

/-- Declare one target after others. -/
def declareTarget (b : Build) (declared : List DeclaredTarget) (t : Manifest.Target) :
    Build × Except DeclareError DeclaredTarget :=
  match b.linkInputs declared t with
  | (b, .error e) => (b, .error e)
  | (b, .ok inputs) =>
    match b.target t.kind t.output inputs with
    | (b, .error e) => (b, .error (.failed e))
    | (b, .ok target) => (b, .ok ⟨t.name, target, t.run⟩)

/-- Declare targets after others, up to the first that fails. -/
def declareFrom (b : Build) (declared : List DeclaredTarget) :
    List Manifest.Target → Build × Except DeclareError (List DeclaredTarget)
  | [] => (b, .ok declared)
  | t :: rest =>
    match b.declareTarget declared t with
    | (b, .error e) => (b, .error e)
    | (b, .ok d) => declareFrom b (declared ++ [d]) rest

/-- Declare the targets of a manifest that passes its check. -/
def declare (b : Build) (manifest : Manifest) : Build × Except DeclareError (List DeclaredTarget) :=
  match manifest.check with
  | .error e => (b, .error (.refused e))
  | .ok () => b.declareFrom [] manifest.targets

end Build

end NativeBuild
