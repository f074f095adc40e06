import NativeBuild.Userland.Shell.Run

/-!
The system's way of running commands.  A command has no input; what it prints is kept, and what it
writes for errors is not.

The modules beside this one stand for the programs that a system comes with: a shell, and the tools that
scripts call.  They are no part of the build, which is defined for every `Runner` and asks nothing else
of the system; this one lets it be run on machines whose compilers are scripts.  Of the system, the
theory speaks of how a command is looked for and started alone.
-/

namespace NativeBuild

namespace Machine

/-- How deep the parts of a script may lie within each other. -/
def scriptFuel : Nat := 10000

/-- Run a command to its end: the machine after it, and how it ended with what it printed, or why it
could not be started. -/
def execute (m : Machine) (c : Command) :
    Machine × Except IoError (Exit × List UInt8) :=
  let texts := c.program.chars :: c.args.map String.toList
  if texts.any fun t => t.any (·.toNat = 0) then (m, .error .nulInArgument)
  else if c.program.chars.isEmpty then (m, .error .notFound)
  else if texts.any fun t => Shell.maxArgumentBytes ≤ byteLength t then
    (m, .error .tooManyArguments)
  else
    let (world, id) := ({ files := m.files } : World).buffer
    let p : Process :=
      { world
        number := world.newest
        here := m.place
        handles := [(0, .nothing), (1, .buffer id), (2, .nothing)] }
    let env := m.env.map fun (name, value) => (Shell.rawString name, Shell.rawString value)
    let name := Shell.rawText c.program.chars
    let search := (env.lookup "PATH".toList).getD (Shell.rawString searchPath)
    let started := do
      let path ← Shell.findProgram p search name
      Shell.launch (Shell.runWithin scriptFuel) Shell.maxLaunches Shell.maxInterpreters p env path
        name (c.args.map Shell.rawString)
    match started with
    | .ok (after, exit) =>
      let (world, output) := after.world.takeBuffer id
      ({ m with files := world.files }, .ok (exit, Shell.bytesOf output))
    | .error e => (m, .error e)

end Machine

/-- Run a command on a machine. -/
def Command.run (c : Command) (m : Machine) : Machine × Except Failure String :=
  let (m, result) := m.execute c
  (m, c.outcome result)

end NativeBuild
