import NativeBuild.Build.Jobs
import NativeBuild.Manifest.Basic
import NativeBuild.Pool.Settle

/-!
A build in progress: its layout and toolchain, the tasks submitted so far, and the compilations that
they stand for.  Compilations with equal keys share one task.
-/

namespace NativeBuild

/-- The compilations asked for so far, and the task of each. -/
structure ObjectTable where
  entries : List (ObjectKey × PathRef)

namespace ObjectTable

/-- The object of a compilation, if it was asked for before. -/
def lookup? (t : ObjectTable) (key : ObjectKey) : Option PathRef :=
  (t.entries.find? fun e => e.1.Same key).map Prod.snd

/-- Record a compilation. -/
def insert (t : ObjectTable) (key : ObjectKey) (object : PathRef) : ObjectTable :=
  ⟨t.entries ++ [(key, object)]⟩

/-- The number of compilations. -/
def size (t : ObjectTable) : Nat :=
  t.entries.length

end ObjectTable

/-- A build in progress.  `run` is what runs commands. -/
structure Build where
  layout : Layout
  toolchain : Toolchain
  run : Runner
  pool : Pool Machine
  table : ObjectTable

/-- A linked artifact: its kind, where it will be, and its path as one that other targets may need.
-/
structure LinkTarget where
  kind : ArtifactKind
  output : Path
  artifact : PathRef
  deriving DecidableEq

namespace Build

/-- A build without any task. -/
def start (run : Runner) (m : Machine) (layout : Layout) (toolchain : Toolchain)
    (config : PoolConfig) : Build :=
  { layout, toolchain, run
    pool := Pool.start config m.here m
    table := ⟨[]⟩ }

/-- Set up a build, unless setting up its pool panics. -/
def start? (limit : Nat) (run : Runner) (m : Machine) (layout : Layout) (toolchain : Toolchain)
    (config : PoolConfig) : Option Build :=
  (Pool.start? limit config m.here m).map fun pool =>
    { layout, toolchain, run, pool, table := ⟨[]⟩ }

/-- The machine as it is now. -/
def machine (b : Build) : Machine :=
  b.pool.world

/-- The build with its machine changed. -/
def setMachine (b : Build) (m : Machine) : Build :=
  { b with pool := { b.pool with world := m } }

/-- Make a directory and those above it that are missing, at once. -/
def ensureDirectory (b : Build) (p : Path) : Build × Except Failure Unit :=
  match b.machine.makeDirectories p with
  | (m, .ok ()) => (b.setMachine m, .ok ())
  | (m, .error e) => (b.setMachine m, .error (.io e))

/-- Submit a task. -/
def submit (b : Build) (spec : TaskSpec) (body : List Path → Job) : Build × PathRef :=
  let (pool, id, _) := b.pool.submit .outside spec body
  ({ b with pool }, .task id)

/-- Ask for the object of a source.  If it was asked for before, nothing happens; else the object
directory is made and a task is submitted. -/
def compile (b : Build) (source : Path) (flags : List String) : Build × Except Failure PathRef :=
  let key := ObjectKey.of b.pool.here source flags
  match b.table.lookup? key with
  | some object => (b, .ok object)
  | none =>
    let c := Compilation.of b.toolchain b.layout.objectDir key
    match b.ensureDirectory b.layout.objectDir with
    | (b, .error e) => (b, .error e)
    | (b, .ok ()) =>
      let (b, object) := b.submit c.spec fun _ => c.job b.run
      ({ b with table := b.table.insert key object }, .ok object)

/-- Ask for the objects of sources in turn, up to the first that fails. -/
def compileAll (b : Build) (flags : List String) : List Path → Build × Except Failure (List PathRef)
  | [] => (b, .ok [])
  | source :: rest =>
    match b.compile source flags with
    | (b, .error e) => (b, .error e)
    | (b, .ok object) =>
      match compileAll b flags rest with
      | (b, .error e) => (b, .error e)
      | (b, .ok objects) => (b, .ok (object :: objects))

/-- Find a library in the layout's search directories. -/
def findLibrary (b : Build) (name : String) : Path :=
  NativeBuild.findLibrary b.machine b.layout.librarySearchPaths name

/-- Declare an artifact: the directory of its output is made at once, and a task is submitted that
links it. -/
def target (b : Build) (kind : ArtifactKind) (output : Path) (inputs : LinkInputs) :
    Build × Except Failure LinkTarget :=
  let output := output.resolveAgainst b.pool.here b.layout.root
  let made : Build × Except Failure Unit := match output.above? with
    | none => (b, .ok ())
    | some dir => b.ensureDirectory dir
  match made with
  | (b, .error e) => (b, .error e)
  | (b, .ok ()) =>
    let l : Linking := ⟨b.toolchain, b.layout.libDir, kind, output, inputs⟩
    let (b, artifact) := b.submit l.spec (l.job b.run)
    (b, .ok ⟨kind, output, artifact⟩)

/-- Wait for a path. -/
def resolve (b : Build) (caller : Caller) (ref : PathRef) : Build × Option (Except Failure Path) :=
  let (pool, answer) := b.pool.resolvePath caller ref
  ({ b with pool }, answer)

/-- Wait for an artifact, then run it. -/
def execute (b : Build) (caller : Caller) (t : LinkTarget) (args : List String) :
    Build × Option (Except Failure String) :=
  match b.resolve caller t.artifact with
  | (b, none) => (b, none)
  | (b, some (.error e)) => (b, some (.error e))
  | (b, some (.ok artifact)) =>
    let command : Command := ⟨artifact, args⟩
    let (pool, answer) := b.pool.blockOn caller fun p =>
      let (world, printed) := b.run command p.world
      ({ p with world }, some printed)
    ({ b with pool }, answer.map fun r => r.bind id)

/-- Wait for every task, and report on all of them. -/
def finish (b : Build) (caller : Caller) : Build × Option (Except Failure Report) :=
  let (pool, answer) := b.pool.joinAll caller
  ({ b with pool }, answer)

/-- End a build: no task outlives it. -/
def close (b : Build) : Build :=
  { b with pool := (b.pool.waitIdle .outside).1 }

end Build

end NativeBuild
