import NativeBuild.Machine.IoError
import NativeBuild.Command

/-!
Why a piece of a build failed.
-/

namespace NativeBuild

/-- Why a command, a task or a request for a task's result failed. -/
inductive Failure where
  | commandFailed (line : String) (code : Option Int)
  | notStarted (line : String) (cause : IoError)
  | io (cause : IoError)
  | taskFailed (label message : String)
  | noOutput (label : String)
  | wouldBlock (label : String)
  deriving DecidableEq

namespace Failure

/-- How a message shows the code that a command exited with; there is none if a signal ended it. -/
def showCode : Option Int → String
  | some n => "Some(" ++ String.ofList (Text.signedDecimal n) ++ ")"
  | none => "None"

/-- The message for a failure. -/
def message : Failure → String
  | .commandFailed line code =>
    "command failed with exit code " ++ showCode code ++ ": " ++ line
  | .notStarted line cause => "failed to start command " ++ line ++ ": " ++ cause.message
  | .io cause => "io error: " ++ cause.message
  | .taskFailed label text => "task '" ++ label ++ "' failed: " ++ text
  | .noOutput label => "task '" ++ label ++ "' produced no output path"
  | .wouldBlock label => "cannot block on '" ++ label ++ "' from inside an async runtime"

/-- The messages of what lies behind a failure, nearest first. -/
def causes : Failure → List String
  | .notStarted _ cause => [cause.message]
  | .io cause => [cause.message]
  | _ => []

end Failure

end NativeBuild
