import NativeBuild.Path.Basic

/-!
Commands: a program and the arguments it gets, word for word.
-/

namespace NativeBuild

/-- A program and its arguments. -/
structure Command where
  program : Path
  args : List String
  deriving DecidableEq

/-- The command as messages show it: the program and its arguments with a blank between them. -/
def Command.line (c : Command) : String :=
  c.args.foldl (fun line arg => line ++ " " ++ arg) c.program.text

end NativeBuild
