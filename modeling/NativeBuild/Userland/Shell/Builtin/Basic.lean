import NativeBuild.Userland.Shell.Assign
import NativeBuild.Userland.Shell.Launch

/-!
The commands that a shell knows itself: their names, and how they refuse what they are asked.
-/

namespace NativeBuild.Shell

/-- The commands that both languages know beside the special ones. -/
def sharedNames : List String :=
  ["[", "alias", "bg", "cd", "command", "echo", "false", "fg", "getopts", "hash", "jobs", "kill",
    "local", "printf", "pwd", "read", "test", "true", "type", "ulimit", "umask", "unalias", "wait"]

/-- The commands that a shell itself knows. -/
def builtinNames : Language → List String
  | .plain => specialNames ++ sharedNames ++ ["chdir"]
  | .rich =>
    specialNames ++ sharedNames ++
      ["builtin", "caller", "compgen", "complete", "compopt", "declare", "dirs", "disown", "enable",
        "help", "history", "let", "logout", "mapfile", "popd", "pushd", "readarray", "shopt",
        "source", "suspend", "typeset"]

namespace State

/-- Whether the shell knows a command itself. -/
def isBuiltin (s : State) (name : Raw) : Bool :=
  (builtinNames s.language).contains (String.ofList name)

/-- Whether assignments in front of a command stay and its faults end the shell. -/
def isSpecial (s : State) (name : Raw) : Bool :=
  !s.isRich && (specialNames.contains (String.ofList name) || name = "local".toList)

/-- Go on with a status. -/
def done (s : State) (status : Nat) : State × Flow :=
  ({ s with status }, .next)

/-- Go on after some output. -/
def printed (s : State) (text : Raw) : State × Flow :=
  (s.say 1 text).done 0

/-- Refuse what a command is asked: a message is written, and in the plain language the fault is
noted, which ends a shell if the command is a special one. -/
def refuse (s : State) (message : Raw) (status : Nat) : State × Flow :=
  if s.isRich then (s.complain message).done status else (s.fault message).done 2

end State

/-- The letters of options in front of arguments, and the arguments behind them. -/
def takeLetters (args : List Raw) : Raw × List Raw :=
  let isOption (a : Raw) : Bool := a.head? = some '-' && a.length > 1 && a ≠ ['-', '-']
  let options := args.takeWhile isOption
  let rest := args.drop options.length
  let operands := if rest.head? = some ['-', '-'] then rest.drop 1 else rest
  ((options.map fun o => o.drop 1).flatten, operands)

/-- A text in single quotes for the plain language, quotes themselves in double ones, in at most
`fuel` parts. -/
def plainQuotedWithin : Nat → Raw → Raw
  | 0, _ => []
  | fuel + 1, text =>
    let part := text.takeWhile (· ≠ '\'')
    let rest := text.drop part.length
    let quotes := rest.takeWhile (· = '\'')
    let after := rest.drop quotes.length
    '\'' :: part ++ ['\''] ++
      (if quotes.isEmpty then [] else '"' :: quotes ++ ['"']) ++
      (if after.isEmpty then [] else plainQuotedWithin fuel after)

/-- A value as a shell shows it so that it can be read back. -/
def State.shownValue (s : State) (text : Raw) : Raw :=
  if !s.isRich then plainQuotedWithin (text.length + 1) text
  else if !text.isEmpty && text.all isPlainChar then text
  else if text.any isControl then dollarQuoted text
  else singleQuoted text

end NativeBuild.Shell
