import NativeBuild.Failure
import NativeBuild.Machine.Basic
import NativeBuild.Text.Blank
import NativeBuild.Text.Utf8

/-!
What a build asks of the system: that it runs a command on a machine.  What a command does is not told
here; the build takes whatever runs it.
-/

namespace NativeBuild

/-- How a program ended: with a status, or by a signal. -/
inductive Exit where
  | status (code : Nat)
  | signal (number : Nat)
  deriving DecidableEq

/-- What became of a command: what it printed, without the blanks at both ends, or its failure. -/
def Command.outcome (c : Command) :
    Except IoError (Exit × List UInt8) → Except Failure String
  | .ok (.status 0, bytes) => .ok (String.ofList (Text.trim (Text.decodeLossy bytes)))
  | .ok (.status code, _) => .error (.commandFailed c.line (some code))
  | .ok (.signal _, _) => .error (.commandFailed c.line none)
  | .error e => .error (.notStarted c.line e)

/-- What runs commands: it may change a machine, and it answers with what the command printed. -/
abbrev Runner := Command → Machine → Machine × Except Failure String

end NativeBuild
