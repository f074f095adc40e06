import NativeBuild.Text.Decimal

/-!
The ways in which a request to the operating system fails.
-/

namespace NativeBuild

/-- Why a request to the operating system failed. -/
inductive IoError where
  | notFound
  | tooManyArguments
  | badExecutable
  | denied
  | alreadyThere
  | notDirectory
  | isDirectory
  | notEmpty
  | nameTooLong
  | linkLoop
  | invalidArgument
  | nulInPath
  | nulInArgument
  | notText
  | textBusy
  | crossDevice
  | notPermitted
  deriving DecidableEq

namespace IoError

/-- The system's number and text for an error, if it is the system's. -/
def number? : IoError → Option (Nat × String)
  | .notFound => some (2, "No such file or directory")
  | .tooManyArguments => some (7, "Argument list too long")
  | .badExecutable => some (8, "Exec format error")
  | .denied => some (13, "Permission denied")
  | .alreadyThere => some (17, "File exists")
  | .notDirectory => some (20, "Not a directory")
  | .isDirectory => some (21, "Is a directory")
  | .invalidArgument => some (22, "Invalid argument")
  | .nameTooLong => some (36, "File name too long")
  | .notEmpty => some (39, "Directory not empty")
  | .linkLoop => some (40, "Too many levels of symbolic links")
  | .nulInPath => none
  | .nulInArgument => none
  | .notText => none
  | .textBusy => some (26, "Text file busy")
  | .crossDevice => some (18, "Invalid cross-device link")
  | .notPermitted => some (1, "Operation not permitted")

/-- The text of an error as the system has it, without its number. -/
def reason (e : IoError) : String :=
  match e.number? with
  | some (_, text) => text
  | none =>
    match e with
    | .nulInPath => "file name contained an unexpected NUL byte"
    | .nulInArgument => "nul byte found in provided data"
    | _ => "stream did not contain valid UTF-8"

/-- The message for an error: its text, and its number if it has one. -/
def message (e : IoError) : String :=
  match e.number? with
  | some (n, text) => text ++ " (os error " ++ String.ofList (Text.decimal n) ++ ")"
  | none => e.reason

end IoError

end NativeBuild
