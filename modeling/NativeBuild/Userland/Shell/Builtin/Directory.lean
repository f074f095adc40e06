import NativeBuild.Userland.Shell.Builtin.Basic

/-!
The commands that lead a shell from one directory to another.
-/

namespace NativeBuild.Shell

/-- A path from the root without parts that lead nowhere or back. -/
def logicalPath (here target : Raw) : Raw :=
  let full := if target.head? = some '/' then target else here ++ '/' :: target
  let step (parts : List Raw) (part : Raw) : List Raw :=
    if part.isEmpty || part = ['.'] then parts
    else if part = ['.', '.'] then parts.drop 1
    else part :: parts
  '/' :: ['/'].intercalate ((Text.pieces '/' full).foldl step []).reverse

namespace State

/-- The place of the directory that the shell is in, as a path from the root. -/
def physicalPath (s : State) : Raw :=
  rawText ('/' :: ['/'].intercalate s.here)

/-- Go into the directory at a path; `none` if it leads to none. -/
def enter? (s : State) (physical : Bool) (target : Raw) : Option State :=
  let place? (path : Raw) : Option Location :=
    match s.files.find s.here true (rawPath path) with
    | .ok (loc, .directory) => some loc
    | _ => none
  let old := s.directory
  let logical := logicalPath old target
  let found : Option (Location × Raw) :=
    if physical then (place? target).map fun loc => (loc, rawText ('/' :: ['/'].intercalate loc))
    else if s.isRich && (place? target).isNone && !target.isEmpty then none
    else (place? logical).map fun loc => (loc, logical)
  found.map fun (loc, path) =>
    let put (s : State) (name : String) (text : Raw) : State :=
      s.putVariable name.toList
        { (s.var? name.toList).getD {} with value := some (.text text), exported := true }
    put (put { s with here := loc } "OLDPWD" old) "PWD" path

/-- The paths that a directory may be meant by, and whether it is said which one it was. -/
def directoryCandidates (s : State) (target : Raw) : List (Raw × Bool) :=
  let first := target.takeWhile (· ≠ '/')
  if first.isEmpty || first = ['.'] || first = ['.', '.'] then [(target, false)]
  else
    let dirs := Text.pieces ':' ((s.get? "CDPATH".toList).getD [])
    (dirs.filter fun d => !d.isEmpty).map (fun d => (below d target, true)) ++ [(target, false)]

end State

/-- Go into a directory. -/
def cdCommand (args : List Raw) (s : State) : State × Flow :=
  let (letters, operands) := takeLetters args
  let physical := letters.getLast? = some 'P'
  if s.isRich && operands.length > 1 then s.refuse (rawString "cd: too many arguments") 1
  else
    let refused (name : Raw) : State × Flow := s.refuse (rawString "cd: can't cd to " ++ name) 1
    let back := operands.head? = some ['-']
    let var? (name : String) : Option Raw :=
      match s.get? name.toList with
      | some dir => some dir
      | none => if s.isRich then none else some []
    let target? : Option Raw :=
      if back then var? "OLDPWD"
      else
        match operands.head? with
        | some dir => some dir
        | none => var? "HOME"
    match target? with
    | none => refused (rawString "home")
    | some target =>
      let step (found : Option (State × Bool)) (candidate : Raw × Bool) : Option (State × Bool) :=
        match found with
        | some result => some result
        | none => (s.enter? physical candidate.1).map (·, candidate.2)
      match (s.directoryCandidates target).foldl step none with
      | some (t, shows) =>
        if back || shows then t.printed (t.directory ++ ['\n']) else t.done 0
      | none => refused target

/-- Show the directory that the shell is in. -/
def pwdCommand (args : List Raw) (s : State) : State × Flow :=
  let (letters, _) := takeLetters args
  s.printed ((if letters.getLast? = some 'P' then s.physicalPath else s.directory) ++ ['\n'])

/-- The directories that can be gone back to. -/
def State.directoryStack (s : State) : List Raw :=
  (s.listOf "DIRSTACK".toList).map Prod.snd

/-- Note the directories that can be gone back to, and show them. -/
def State.withStack (s : State) (stack : List Raw) : State × Flow :=
  let s := s.putVariable "DIRSTACK".toList
    { value := some (.list (stack.zipIdx.map fun (d, k) => (k, d))) }
  s.printed (spaced (s.directory :: stack) ++ ['\n'])

/-- Go into a directory and keep the old one, or change places with the one kept last. -/
def pushdCommand (args : List Raw) (s : State) : State × Flow :=
  let refused : State × Flow := s.refuse (rawString "pushd: no other directory") 1
  match args, s.directoryStack with
  | target :: _, stack =>
    match s.enter? false target with
    | some t => t.withStack (s.directory :: stack)
    | none => refused
  | [], last :: stack =>
    match s.enter? false last with
    | some t => t.withStack (s.directory :: stack)
    | none => refused
  | [], [] => refused

/-- Go back into the directory kept last. -/
def popdCommand (s : State) : State × Flow :=
  match s.directoryStack with
  | last :: stack =>
    match s.enter? false last with
    | some t => t.withStack stack
    | none => s.refuse (rawString "popd: no such directory") 1
  | [] => s.refuse (rawString "popd: directory stack empty") 1

end NativeBuild.Shell
