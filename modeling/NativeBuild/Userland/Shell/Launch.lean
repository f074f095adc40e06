import NativeBuild.Userland.Shell.Nested
import NativeBuild.Userland.Shell.Program
import NativeBuild.Userland.Shell.Setting
import NativeBuild.Userland.Tool.Run

/-!
Starting programs: tools, scripts with their interpreters, and shells.
-/

namespace NativeBuild.Shell

open Tool (Environment)

/-- The wishes that the rich language starts with. -/
def usualWishes : Wishes :=
  ["checkwinsize", "cmdhist", "complete_fullquote", "extquote", "force_fignore", "globasciiranges",
    "globskipdots", "hostcomplete", "interactive_comments", "patsub_replacement", "progcomp",
    "promptvars", "sourcepath"]

/-- The variables that a shell sets by itself. -/
def usualVariables (language : Language) : List (String × String) :=
  let shared : List (String × String) :=
    [("IFS", " \t\n"), ("OPTIND", "1"), ("PATH", Machine.searchPath), ("PPID", "1"), ("PS4", "+ ")]
  match language with
  | .plain => shared ++ [("PS1", "# "), ("PS2", "> ")]
  | .rich =>
    shared ++ [("BASH", "/usr/bin/bash"), ("BASH_VERSION", "5.2.21(1)-release"), ("EUID", "0"),
      ("HOSTNAME", "localhost"), ("HOSTTYPE", "x86_64"), ("MACHTYPE", "x86_64-pc-linux-gnu"),
      ("OPTERR", "1"), ("OSTYPE", "linux-gnu"), ("SHELL", "/bin/bash"), ("TERM", "dumb"),
      ("UID", "0")]

/-- A shell for a program that is started: it sees the environment and nothing else of the shell
that starts it. -/
def freshShell (language : Language) (p : Process) (env : Environment) (name : Raw)
    (args : List Raw) : State :=
  let own : List (Raw × Variable) := (usualVariables language).filterMap fun (n, v) =>
    if (env.lookup n.toList).isSome && n ≠ "IFS" && n ≠ "OPTIND" && n ≠ "PPID" then none
    else some (n.toList, { value := some (.text (rawString v)) })
  let given : List (Raw × Variable) :=
    (env.reverse.filter fun v => isName v.1).filterMap fun (n, v) =>
    if own.any (·.1 = n) then none
    else some (n, { value := some (.text v), exported := true })
  let s : State :=
    { p with
      language, name, args
      leader := p.number
      vars := given ++ own
      wishes := if language = .rich then usualWishes else [] }
  let isHere (path : Raw) : Bool :=
    path.head? = some '/' && (match p.files.find p.here true (rawPath path) with
      | .ok (loc, .directory) => loc = p.here
      | _ => false)
  let physical := rawText ('/' :: ['/'].intercalate p.here)
  let here := ((env.lookup "PWD".toList).filter isHere).getD physical
  let s := s.putVariable "PWD".toList { value := some (.text here), exported := true }
  if language = .plain then s
  else
    let level := number ((env.lookup "SHLVL".toList).getD []) + 1
    let s := s.putVariable "SHLVL".toList
      { value := some (.text (Text.decimal level)), exported := true }
    let versions := ["5", "2", "21", "1", "release", "x86_64-pc-linux-gnu"]
    s.putVariable "BASH_VERSINFO".toList
      { value := some (.list (versions.zipIdx.map fun (t, k) => (k, t.toList))), constant := true }

/-- Run the lines that wait to be read.  In the rich language each is taken on its own, so that the
commands in it can read those behind it. -/
def runInput (go : Go) : Nat → State → State × Flow
  | 0, s => (s, .next)
  | fuel + 1, s =>
    let text := (s.toProcess.pending 0).text
    if !s.isRich then runLines go text (s.onProcess fun p => p.leave 0 [])
    else
      match nextLine s.grammar text with
      | .done => (s.onProcess fun p => p.leave 0 [], .next)
      | .fault => ({ s.onProcess fun p => p.leave 0 [] with status := 2 }, .next)
      | .line script rest =>
        match go script (s.onProcess fun p => p.leave 0 rest) with
        | (s, .next) => runInput go fuel s
        | (s, .abandon) => runInput go fuel { s with status := 1 }
        | result => result

/-- Run the shell as a program, from its arguments. -/
def runShell (go : Go) (language : Language) (p : Process) (env : Environment) (name : Raw)
    (args : List Raw) : Process × Exit :=
  let refused (message : Raw) (status : Nat) : Process × Exit :=
    (p.write 2 (name ++ rawString ": " ++ message ++ ['\n']), .status status)
  match Setting.read? language true {} args with
  | none => refused "Illegal option".toList 2
  | some r =>
    let shell (name : Raw) (args : List Raw) : State :=
      let s := freshShell language p env name args
      { s with options := r.options, wishes := r.wishes ++ s.wishes }
    let ended (result : State × Flow) : Process × Exit :=
      let (s, exit) := finish go result
      (p.after s.toProcess, exit)
    match r.isText, r.fromInput, r.args with
    | true, _, [] => refused "-c requires an argument".toList 2
    | true, _, text :: more =>
      ended (runLines go text { shell (more.headD name) (more.drop 1) with
        source := .argument
        isLast := language = .rich })
    | false, false, file :: more =>
      let found : Except IoError (Process × Raw) :=
        match p.readFile (rawPath file) with
        | .error .notFound =>
          if language = .rich then do
            let path ← searchProgram p ((env.lookup "PATH".toList).getD []) file
            p.readFile (rawPath path)
          else .error .notFound
        | result => result
      match found with
      | .ok (p, text) =>
        if language = .rich && isBinary .rich text then
          refused (file ++ rawString ": cannot execute binary file") 126
        else ended (runLines go text { shell file more with toProcess := p })
      | .error e =>
        let message := file ++ rawString (": " ++ e.reason)
        match language, e with
        | .plain, .isDirectory => (p, .status 0)
        | .plain, _ => refused message 2
        | .rich, .notFound => refused message 127
        | .rich, _ => refused message 126
    | false, _, more =>
      let s := { shell name more with source := .input }
      ended (runInput go ((s.toProcess.pending 0).text.length + 1) s)

/-- The number of bytes that one argument must stay below. -/
def maxArgumentBytes : Nat := 131072

/-- Let the time pass that it takes to start a program. -/
def startTime (p : Process) : Process :=
  { p with world := p.world.atTime (p.world.clock + 1000000) }

/-- How many interpreters may stand between a script and a program. -/
def maxInterpreters : Nat := 6

/-- The end of a program in a world in which it may have got a signal while it waited. -/
def exitIn (w : World) (exit : Exit) : Exit :=
  match w.isCut, w.limit with
  | true, some (_, signal) => .signal signal
  | _, _ => exit

/-- Start the program in a file and run it to its end.  `name` is what it is told it is called; at
most `depth` interpreters stand between a script and a program. -/
def launch (go : Go) :
    Nat → Nat → Process → Environment → Raw → Raw → List Raw → Except IoError (Process × Exit)
  | 0, _, _, _, _, _, _ => .error .linkLoop
  | _, 0, _, _, _, _, _ => .error .linkLoop
  | fuel + 1, depth + 1, p, env, path, name, args => do
    match ← p.files.find p.here true (rawPath path) with
    | (_, .program tool) =>
      if args.any fun a => maxArgumentBytes ≤ a.length then .error .tooManyArguments
      let p := startTime p
      if tool = "dash" then .ok (runShell go .plain p env name args)
      else if tool = "bash" then .ok (runShell go .rich p env name args)
      else
        let start : Tool.Starter := fun p env name args => do
          let search := (env.lookup "PATH".toList).getD "/bin:/usr/bin".toList
          let path ← findProgram p search name
          match launch go fuel maxInterpreters p env path name args with
          | .error .badExecutable => .ok (runShell go .plain (startTime p) env name (path :: args))
          | result => result
        match Tool.run? tool { name, args, env, start } with
        | some act =>
          let (exit, p) := act.run p
          .ok (p, exitIn p.world exit)
        | none => .error .notFound
    | (_, .file bytes true) =>
      match interpreter? (rawBytes bytes) with
      | none => .error .badExecutable
      | some ([], _) => .error .badExecutable
      | some (program, extra) => launch go fuel depth p env program program (extra ++ path :: args)
    | _ => .error .denied

/-- How many programs may start each other without a shell between them. -/
def maxLaunches : Nat := 200

/-- Start a program from the shell, as the process `p`. -/
def State.start (go : Go) (s : State) (p : Process) (name : Raw) (args : List Raw) :
    Except IoError (Process × Exit) := do
  let path ← findProgram p ((s.get? "PATH".toList).getD []) name
  match launch go maxLaunches maxInterpreters p s.environment path name args with
  | .error .badExecutable =>
    let (_, text) ← p.readFile (rawPath path)
    if isBinary s.language text then .error .badExecutable
    let shell := freshShell s.language (startTime p) s.environment path args
    let (after, exit) := finish go (runLines go text shell)
    return (p.after after.toProcess, exit)
  | result => result

/-- Say that a program could not be started, and leave the status for that. -/
def State.notStarted (s : State) (name : Raw) (e : IoError) : State :=
  match e with
  | .notFound =>
    let message := if name.contains '/' then ": No such file or directory"
      else if s.isRich then ": command not found" else ": not found"
    { s.complain (name ++ rawString message) with status := 127 }
  | e => { s.complain (name ++ rawString (": " ++ e.reason)) with status := 126 }

/-- Start a program from the shell and wait for its end.  If it takes the place of the shell, a
signal that ends it ends the shell. -/
def runProgram (go : Go) (name : Raw) (args : List Raw) (s : State) : State × Flow :=
  let (forked, number) := s.toProcess.fork
  match s.start go { forked with number } name args with
  | .ok (p, exit) =>
    let s := { s.track name 1 with toProcess := forked.after p, status := exit.seen }.childEnded
    match exit with
    | .signal n => (s, if s.isLast && s.traps.isEmpty then .killed n else .next)
    | .status _ => (s, .next)
  | .error e => (s.notStarted name e, .next)

/-- Let a program take the place of the shell. -/
def replaceShell (go : Go) (name : Raw) (args : List Raw) (s : State) : State × Flow :=
  match s.start go s.toProcess name args with
  | .ok (p, .status n) =>
    ({ s with toProcess := s.toProcess.after p, status := n, traps := [] }, .exit)
  | .ok (p, .signal n) => ({ s with toProcess := s.toProcess.after p, traps := [] }, .killed n)
  | .error e => (s.notStarted name e, .exit)

end NativeBuild.Shell
