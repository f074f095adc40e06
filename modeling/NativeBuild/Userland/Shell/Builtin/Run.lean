import NativeBuild.Userland.Condition
import NativeBuild.Userland.Shell.Bracket
import NativeBuild.Userland.Shell.Builtin.Directory
import NativeBuild.Userland.Shell.Builtin.Input
import NativeBuild.Userland.Shell.Builtin.Signals
import NativeBuild.Userland.Shell.Builtin.Variables

/-!
The commands that a shell knows itself, by their names.
-/

namespace NativeBuild.Shell

/-- Write the output of a command; where nothing can be written, the command fails. -/
def State.output (s : State) (text : Raw) (status : Nat) : State × Flow :=
  if text.isEmpty || s.canWrite 1 then (s.say 1 text).done status
  else (s.complain (rawString "write error: Bad file descriptor")).done 1

/-- The text that the arguments are printed as. -/
def echoedText (s : State) (args : List Raw) : Raw :=
  if s.isRich then
    Tool.echoText (s.wishes.contains "xpg_echo") { Dialect.rich.argument with quotes := false } args
  else
    let stays := args.head? = some ['-', 'n']
    let words := if stays then args.drop 1 else args
    let (text, goesOn) := unescape Dialect.plain.argument (spaced words)
    if stays || !goesOn then text else text ++ ['\n']

/-- Print by a format, or into a variable. -/
def printfCommand (args : List Raw) (s : State) : State × Flow :=
  let now := (Calendar.Moment.ofTime s.world.clock).seconds
  let dialect := if s.isRich then { Dialect.rich with now := some now } else Dialect.plain
  let into (name : Raw) (rest : List Raw) : State × Flow :=
    let (text, status) := printWords dialect rest
    let base := name.takeWhile (· ≠ '[')
    let key :=
      if base.length < name.length then some ((name.drop (base.length + 1)).dropLast) else none
    (({ name := base, key, value := .text text } : Setter).make s).done status
  match s.isRich, args with
  | true, ['-', 'v'] :: name :: rest => into name rest
  | true, ('-' :: 'v' :: name) :: rest => into name rest
  | _, _ =>
    let (text, status) := printWords dialect args
    s.output text status

/-- Whether arguments that are a condition hold. -/
def testCommand (isBracket : Bool) (args : List Raw) (s : State) : State × Flow :=
  let args? : Option (List Raw) :=
    if !isBracket then some args
    else if args.getLast? = some [']'] then some args.dropLast
    else none
  match args?.bind (NativeBuild.Condition.holds? s.conditionStyle s.toProcess) with
  | some holds => s.done (if holds then 0 else 1)
  | none => (s.complain (rawString "test: not a condition")).done 2

/-- Work out sums; the last one says whether the command succeeds. -/
def letCommand (args : List Raw) (s : State) : State × Flow :=
  let step (acc : Option (Int × State)) (text : Raw) : Option (Int × State) :=
    acc.bind fun (_, s) => s.reckon? text
  if args.isEmpty then s.refuse (rawString "let: expression expected") 1
  else
    match args.foldl step (some (0, s)) with
    | some (n, s) => s.done (if n = 0 then 1 else 0)
    | none => (s.complain (rawString "let: bad sum")).done 1

/-- End the shell with a status. -/
def exitCommand (args : List Raw) (s : State) : State × Flow :=
  match args.head? with
  | none => (s, .exit)
  | some text =>
    let n : Option Int := if s.isRich then integer? text else (Text.decimal? text).map Int.ofNat
    match n with
    | some n => ({ s with status := (n % 256).toNat }, .exit)
    | none =>
      ({ s.complain (rawString "exit: Illegal number: " ++ text) with status := 2 }, .exit)

/-- Leave a function, or a script that is run in its place. -/
def returnCommand (args : List Raw) (s : State) : State × Flow :=
  if s.isRich && s.depth = 0 then
    (s.complain (rawString "return: can only be used in a function or sourced script")).done 2
  else
    match args.head? with
    | none => (s, .return)
    | some text =>
      let n : Option Nat :=
        if s.isRich then (integer? text).map fun n => (n % 256).toNat else Text.decimal? text
      match n with
      | some n => ({ s with status := n }, .return)
      | none =>
        if s.isRich then ({ s.complain (rawString "return: " ++ text) with status := 2 }, .return)
        else s.refuse (rawString "return: Illegal number: " ++ text) 2

/-- Leave loops, or go on with the next turn of one. -/
def loopCommand (leaves : Bool) (args : List Raw) (s : State) : State × Flow :=
  let count := if s.isRich && s.loops = 0 then some 1
    else (args.head?.map Text.decimal?).getD (some 1)
  let go (n : Nat) : State × Flow :=
    if s.loops = 0 then s.done 0
    else
      let n := min n s.loops
      ({ s with status := 0 }, if leaves then .break n else .continue n)
  match count with
  | some (n + 1) => go (n + 1)
  | some 0 =>
    if s.isRich then ({ s with status := 1 }, if s.loops = 0 then .next else .break s.loops)
    else s.refuse (rawString "Illegal number: 0") 2
  | none =>
    if s.isRich then ({ s with status := 128 }, .exit)
    else s.refuse (rawString "Illegal number") 2

/-- Run the arguments as a script. -/
def evalCommand (go : Go) (args : List Raw) (s : State) : State × Flow :=
  let args := if args.head? = some ['-', '-'] then args.drop 1 else args
  let text := spaced args
  match nextLine s.grammar text with
  | .done => s.done 0
  | _ =>
    let (t, flow) := runLines go text { s with isLast := false }
    ({ t with isLast := s.isLast }, flow)

/-- Run the script in a file in the place of the command. -/
def sourceCommand (go : Go) (args : List Raw) (s : State) : State × Flow :=
  let args := if args.head? = some ['-', '-'] then args.drop 1 else args
  match args with
  | [] => if s.isRich then s.done 2 else s.done 0
  | name :: given =>
    let candidates : List Raw :=
      if name.contains '/' then [name]
      else
        (searchedDirectories ((s.get? "PATH".toList).getD [])).map (below · name) ++
          (if s.isRich then [name] else [])
    let isFile (path : Raw) : Bool := match s.entryAt true path with
      | some (_, .directory) => false
      | some _ => true
      | none => false
    let read : Except IoError (Process × Raw) :=
      match candidates.find? isFile with
      | some path => s.toProcess.readFile (rawPath path)
      | none => .error .notFound
    match read with
    | .error e => s.refuse (name ++ rawString (": " ++ e.reason)) 1
    | .ok (p, text) =>
      let inner : State :=
        { s with
          toProcess := p
          depth := s.depth + 1
          status := 0
          isLast := false
          args := if s.isRich && !given.isEmpty then given else s.args }
      let (t, flow) := runLines go text inner
      let t : State :=
        { t with
          depth := s.depth
          isLast := s.isLast
          args := if s.isRich && !given.isEmpty then s.args else t.args }
      (t, if flow = .return then .next else flow)

/-- Let a program take the place of the shell. -/
def execCommand (go : Go) (args : List Raw) (s : State) : State × Flow :=
  match args with
  | ['-', '-'] :: name :: rest => replaceShell go name rest s
  | ['-', 'a'] :: _ :: name :: rest => replaceShell go name rest s
  | ['-', 'c'] :: name :: rest => replaceShell go name rest s
  | ['-', 'l'] :: name :: rest => replaceShell go name rest s
  | name :: rest => replaceShell go name rest s
  | [] => s.done 0

/-- Show the time that has been used, which is too short to be seen. -/
def timesCommand (s : State) : State × Flow :=
  let line := if s.isRich then "0m0.000s 0m0.000s\n" else "0m0.000000s 0m0.000000s\n"
  s.printed (rawString (line ++ line))

/-- Show the limits of what a program may use. -/
def limitCommand (args : List Raw) (s : State) : State × Flow :=
  let (letters, operands) := takeLetters args
  if !operands.isEmpty then s.done 0
  else if letters.contains 'n' then s.printed (rawString "1048576\n")
  else s.printed (rawString "unlimited\n")

/-- Run a command that the shell itself knows; `none` if it knows none of this name. -/
def builtin? (go : Go) (name : Raw) (args : List Raw) (s : State) : Option (State × Flow) :=
  if !s.isBuiltin name then none
  else
    let isMeaningless (status : Nat) : State × Flow := s.done status
    some <|
    match String.ofList name with
    | ":" => s.done 0
    | "true" => s.done 0
    | "false" => s.done 1
    | "echo" => s.output (echoedText s args) 0
    | "printf" => printfCommand args s
    | "test" => testCommand false args s
    | "[" => testCommand true args s
    | "pwd" => pwdCommand args s
    | "cd" => cdCommand args s
    | "chdir" => cdCommand args s
    | "pushd" => pushdCommand args s
    | "popd" => popdCommand s
    | "dirs" => s.printed (spaced (s.directory :: s.directoryStack) ++ ['\n'])
    | "exit" => exitCommand args s
    | "logout" => exitCommand args s
    | "return" => returnCommand args s
    | "break" => loopCommand true args s
    | "continue" => loopCommand false args s
    | "shift" => shiftCommand args s
    | "set" => setCommand args s
    | "unset" => unsetCommand args s
    | "shopt" => shoptCommand args s
    | "read" => inputCommand args s
    | "mapfile" => mapfileCommand args s
    | "readarray" => mapfileCommand args s
    | "getopts" => getoptsCommand args s
    | "let" => letCommand args s
    | "eval" => evalCommand go args s
    | "." => sourceCommand go args s
    | "source" => sourceCommand go args s
    | "exec" => execCommand go args s
    | "type" => typeCommand args s
    | "hash" => hashCommand args s
    | "alias" => aliasCommand args s
    | "unalias" => unaliasCommand args s
    | "trap" => trapCommand args s
    | "kill" => killCommand args s
    | "wait" => waitCommand args s
    | "umask" => umaskCommand args s
    | "ulimit" => limitCommand args s
    | "times" => timesCommand s
    | "jobs" => jobsCommand args s
    | "fg" => frontCommand args s
    | "bg" => backCommand args s
    | "caller" => isMeaningless 1
    | "suspend" => isMeaningless 1
    | _ =>
      if ["export", "readonly", "local", "declare", "typeset"].contains (String.ofList name) then
        declareCommand (String.ofList name) (args.map .word) s
      else isMeaningless 0

/-- What the name and the arguments of a command come to: a command of some name, which is no
function and whose faults do not end the shell if another command asks for it; or a question what
names stand for. -/
inductive Asked where
  | run (name : Raw) (args : List Raw) (isPlain : Bool)
  | meaning (atLength : Bool) (names : List Raw)
  | nothing

/-- Look through commands that ask for others. -/
def askedBy (language : Language) : List Raw → Bool → Bool → Asked
  | [], _, _ => .nothing
  | name :: args, isPlain, within =>
    if within && name.head? = some '-' && name.length > 1 then
      if name = ['-', '-'] || name = ['-', 'p'] then askedBy language args isPlain true
      else if name = ['-', 'v'] then .meaning false args
      else if name = ['-', 'V'] then .meaning true args
      else .run name args isPlain
    else if name = "command".toList || (language = .rich && name = "builtin".toList) then
      askedBy language args true true
    else .run name args isPlain

end NativeBuild.Shell
