import NativeBuild.Cli.Build
import NativeBuild.Userland.Execute

/-!
The program as a whole: a command line on a machine.
-/

namespace NativeBuild.Cli

/-- The code of a command line that is not understood. -/
def usageCode : Nat := 2

/-- How the program is used. -/
def usage : String :=
  "Usage: cforge [OPTIONS] <COMMAND>"

/-- Run a command line. -/
def run (runner : Runner) (m : Machine) (args : List String) : Ended :=
  let wrote (c : Console) (code : Nat) : Ended := ⟨m, fun _ => c, code⟩
  match Invocation.ofArgs? args with
  | none => wrote (Console.empty.errorLine usage) usageCode
  | some .version => wrote (Console.empty.line ("cforge " ++ version)) 0
  | some .help => wrote (Console.empty.line usage) 0
  | some (.info options) => wrote (info m options) 0
  | some (.build options) => buildWithin semaphoreLimit runner m options

/-- Run a command line where the system runs the commands. -/
def start (m : Machine) (args : List String) : Ended :=
  run Command.run m args

end NativeBuild.Cli
