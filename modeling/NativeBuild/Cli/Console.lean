import NativeBuild.Text.Decimal

/-!
What a command writes: lines for its output and lines for errors.
-/

namespace NativeBuild.Cli

/-- What has been written so far. -/
structure Console where
  out : String
  err : String

namespace Console

/-- Nothing written. -/
def empty : Console :=
  ⟨"", ""⟩

/-- Write a line of output. -/
def line (c : Console) (text : String) : Console :=
  { c with out := c.out ++ text ++ "\n" }

/-- Write a line for errors. -/
def errorLine (c : Console) (text : String) : Console :=
  { c with err := c.err ++ text ++ "\n" }

/-- Report that something is done. -/
def success (c : Console) (text : String) : Console :=
  c.line ("✓ " ++ text)

/-- Report a step. -/
def step (c : Console) (text : String) : Console :=
  c.line (":: " ++ text)

/-- Report something that failed and does not end the command. -/
def warning (c : Console) (text : String) : Console :=
  c.errorLine ("! " ++ text)

/-- Report something that failed. -/
def failure (c : Console) (text : String) : Console :=
  c.errorLine ("✗ " ++ text)

/-- Report a value under a name. -/
def item (c : Console) (name value : String) : Console :=
  c.line ("  " ++ name ++ ": " ++ value)

/-- A text whose further lines start with some blanks. -/
def hanging (blanks : String) (text : String) : String :=
  String.ofList (text.toList.flatMap fun c => if c = '\n' then '\n' :: blanks.toList else [c])

/-- Causes with their numbers, from `n` on. -/
def numbered (n : Nat) : List String → List String
  | [] => []
  | cause :: rest =>
    let number := String.ofList (Text.decimal n)
    ("    " ++ number ++ ": " ++ hanging "       " cause) :: numbered (n + 1) rest

/-- The text of an error: its message, and what lies behind it, numbered if there are several
causes. -/
def errorText (message : String) (causes : List String) : String :=
  let lines := match causes with
    | [] => []
    | [cause] => ["", "Caused by:", "    " ++ hanging "    " cause]
    | causes => "" :: "Caused by:" :: numbered 0 causes
  "\n".intercalate (("Error: " ++ message) :: lines)

/-- Write the error that ends a command. -/
def error (c : Console) (message : String) (causes : List String) : Console :=
  c.errorLine (errorText message causes)

end Console

end NativeBuild.Cli
