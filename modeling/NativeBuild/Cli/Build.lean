import NativeBuild.Build.Declare
import NativeBuild.Cli.Info
import NativeBuild.Duration

/-!
The command that builds a project: its manifest is loaded, every target is declared, the artifacts
are run, and all tasks are waited for, whatever happened before.
-/

namespace NativeBuild.Cli

/-- An error that ends a command: its message and what lies behind it, nearest first. -/
structure CommandError where
  message : String
  causes : List String

/-- How a command ended: the machine after it, what it wrote, which may tell how long it took, and
the code that it ended with. -/
structure Ended where
  machine : Machine
  console : Duration → Console
  code : Nat

/-- The message for a manifest that cannot be loaded. -/
def loadMessage : Manifest.LoadError → String
  | .unreadable path cause => "failed to read manifest " ++ path.text ++ ": " ++ cause.message
  | .unparsable path fault => "failed to parse manifest " ++ path.text ++ ": " ++ fault.message
  | .refused refusal => refusal.message

/-- The messages of what lies behind it. -/
def loadCauses : Manifest.LoadError → List String
  | .unreadable _ cause => [cause.message]
  | .unparsable _ fault => [fault.message]
  | .refused refusal => refusal.causes

namespace BuildOptions

/-- How the pool of a build runs: as the environment says, unless the options say otherwise. -/
def poolConfig (o : BuildOptions) (settings : Settings) : PoolConfig :=
  { parallelism := (o.jobs.filter (0 < ·)).getD settings.parallelism
    mode := if o.inline then .inline else .pooled
    policy := if o.strict then .strict else .bestEffort }

end BuildOptions

/-- A build with what the command has written. -/
structure Session where
  build : Build
  console : Console

/-- A wait that never ends; the message would be that of a task that was given up. -/
def neverEnds : Failure :=
  .taskFailed "" Task.abandoned

/-- Run an artifact with one list of arguments.  A failure is only reported, unless the policy is
strict. -/
def runOnce (s : Session) (d : DeclaredTarget) (args : List String) :
    Session × Except CommandError Unit :=
  let console := s.console.step (d.name ++ " → " ++ " ".intercalate args)
  let (build, answer) := s.build.execute .outside d.target args
  match answer.getD (.error neverEnds) with
  | .ok output =>
    (⟨build, if output.isEmpty then console else console.line output⟩, .ok ())
  | .error e =>
    let text := d.name ++ ": " ++ e.message
    match build.pool.config.policy with
    | .strict =>
      (⟨build, console.failure text⟩, .error ⟨"Running target '" ++ d.name ++ "' failed", []⟩)
    | .bestEffort => (⟨build, console.warning text⟩, .ok ())

/-- Run an artifact with each list of arguments, up to the first that ends the command. -/
def runArtifact (s : Session) (d : DeclaredTarget) :
    List (List String) → Session × Except CommandError Unit
  | [] => (s, .ok ())
  | args :: rest =>
    match runOnce s d args with
    | (s, .error e) => (s, .error e)
    | (s, .ok ()) => runArtifact s d rest

/-- Run the artifacts of targets in turn, up to the first that ends the command. -/
def runAll (s : Session) : List DeclaredTarget → Session × Except CommandError Unit
  | [] => (s, .ok ())
  | d :: rest =>
    match runArtifact s d d.runs with
    | (s, .error e) => (s, .error e)
    | (s, .ok ()) => runAll s rest

/-- Declare every target and run the artifacts, if that is wanted. -/
def declareAndRun (s : Session) (manifest : Manifest) (noRun : Bool) :
    Session × Except CommandError (List DeclaredTarget) :=
  match s.build.declare manifest with
  | (build, .error e) =>
    (⟨build, s.console⟩, .error ⟨"Failed to declare targets", e.message :: e.causes⟩)
  | (build, .ok declared) =>
    let s : Session := ⟨build, s.console⟩
    if noRun then (s, .ok declared)
    else
      match runAll s declared with
      | (s, .error e) => (s, .error e)
      | (s, .ok ()) => (s, .ok declared)

/-- Report on a build that has come to its end. -/
def reportBuild (c : Console) (targets : Nat) (report : Report) (elapsed : Duration) : Console :=
  let c := report.failed.foldl (fun c f => c.warning (f.label ++ " failed: " ++ f.message)) c
  let c := c.line ""
  let c := if report.isSuccess then c.success "Build complete!"
    else c.warning "Build finished with failures"
  let number (n : Nat) : String := String.ofList (Text.decimal n)
  let c := c.item "Targets" (number targets)
  let c := c.item "Tasks completed" (number report.completed)
  let c := c.item "Tasks failed" (number report.failed.length)
  c.item "Duration" elapsed.format

/-- A command that ends with an error. -/
def failed (m : Machine) (c : Console) (e : CommandError) : Ended :=
  ⟨m, fun _ => c.error e.message e.causes, 1⟩

/-- The code of a command that a panic ends. -/
def panicCode : Nat := 101

/-- A command that is ended by asking a semaphore for more permits than it has room for.  Of what is
written then, the message alone is told, without the place in the program and the thread. -/
def overfilled (m : Machine) (limit : Nat) : Ended :=
  let number := String.ofList (Text.decimal limit)
  ⟨m, fun _ => Console.empty.errorLine
    ("a semaphore may not have more than MAX_PERMITS permits (" ++ number ++ ")"), panicCode⟩

/-- Carry out a build that has been set up. -/
def carryOut (b : Build) (manifest : Manifest) (noRun : Bool) : Ended :=
  let (s, declared) := declareAndRun ⟨b, .empty⟩ manifest noRun
  let (b, joined) := s.build.finish .outside
  match declared, joined.getD (.error neverEnds) with
  | .error e, _ => failed b.machine s.console e
  | .ok _, .error e => failed b.machine s.console ⟨"Build failed", e.message :: e.causes⟩
  | .ok declared, .ok report =>
    ⟨b.machine, reportBuild s.console declared.length report, 0⟩

/-- Build a project, if there is room for its permits. -/
def build (run : Runner) (m : Machine) (options : BuildOptions) : Ended :=
  let settings := Settings.ofEnv m.env
  let root := projectRoot m options.root
  match Manifest.load m (options.manifest.getD (root.child manifestName)) with
  | .error e => failed m .empty ⟨"Failed to load manifest", loadMessage e :: loadCauses e⟩
  | .ok manifest =>
    carryOut (Build.forProject run m settings root manifest (options.poolConfig settings)) manifest
      options.noRun

/-- Build a project on a machine whose semaphores have room for `limit` permits. -/
def buildWithin (limit : Nat) (run : Runner) (m : Machine) (options : BuildOptions) : Ended :=
  let settings := Settings.ofEnv m.env
  let root := projectRoot m options.root
  match Manifest.load m (options.manifest.getD (root.child manifestName)) with
  | .error e => failed m .empty ⟨"Failed to load manifest", loadMessage e :: loadCauses e⟩
  | .ok manifest =>
    match Build.forProject? limit run m settings root manifest (options.poolConfig settings) with
    | none => overfilled m limit
    | some b => carryOut b manifest options.noRun

end NativeBuild.Cli
