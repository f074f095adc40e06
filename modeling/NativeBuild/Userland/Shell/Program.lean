import NativeBuild.Userland.Condition
import NativeBuild.Userland.Shell.Script

/-!
Programs as they are found: by a path, or by a name in the directories of a search path.
-/

namespace NativeBuild.Shell

/-- The interpreter that the first line of a file names, and its argument, if there is one. -/
def interpreter? (text : Raw) : Option (Raw × List Raw) :=
  match text with
  | '#' :: '!' :: rest =>
    let isGap (c : Char) : Bool := c = ' ' || c = '\t'
    let line := (rest.takeWhile (· ≠ '\n')).dropWhile isGap
    let program := line.takeWhile fun c => !isGap c
    let argument := ((line.dropWhile fun c => !isGap c).dropWhile isGap).reverse.dropWhile isGap
    some (program, if argument.isEmpty then [] else [argument.reverse])
  | _ => none

/-- The number of bytes that are looked at to see whether a file is a script. -/
def looksAt : Nat := 128

/-- Whether a file without an interpreter looks as if it were no script, in the eyes of a shell. -/
def isBinary (language : Language) (text : Raw) : Bool :=
  let first := (text.take looksAt).takeWhile (· ≠ '\n')
  match language with
  | .plain =>
    let isText (c : Char) : Bool :=
      let n := c.toNat
      (32 ≤ n && n ≠ 127) || (8 ≤ n && n ≤ 13) || n = 27
    !first.all isText
  | .rich => first.contains (Char.ofNat 0) || (Char.ofNat 127 :: "ELF".toList).isPrefixOf first

/-- The directories of a search path; an empty one is the current one. -/
def searchedDirectories (path : Raw) : List Raw :=
  (Text.pieces ':' path).map fun d => if d.isEmpty then ['.'] else d

/-- A name below a directory. -/
def below (dir name : Raw) : Raw :=
  if dir.getLast? = some '/' then dir ++ name else dir ++ '/' :: name

/-- The path of the first program of a name in the directories of a search path: the first that may
be run; if there is none, but something of that name, it is denied. -/
def searchProgram (p : Process) (path name : Raw) : Except IoError Raw :=
  if maxNameBytes < name.length then .error .nameTooLong
  else
    let step (best : Except IoError Raw) (dir : Raw) : Except IoError Raw :=
      match best with
      | .ok found => .ok found
      | .error e =>
        let candidate := below dir name
        match p.entryAt true candidate with
        | some (_, .program _) => .ok candidate
        | some (_, .file _ true) => .ok candidate
        | some _ => .error .denied
        | none => .error e
    (searchedDirectories path).foldl step (.error .notFound)

/-- The path of a program: the name itself if it is a path, or else what is found. -/
def findProgram (p : Process) (path name : Raw) : Except IoError Raw :=
  if name.isEmpty then .error .notFound
  else if name.contains '/' then .ok name
  else searchProgram p path name

end NativeBuild.Shell
