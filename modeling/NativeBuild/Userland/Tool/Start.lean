import NativeBuild.Userland.Shell.Program
import NativeBuild.Userland.Tool.Print

/-!
Tools that start programs.
-/

namespace NativeBuild.Tool

open Shell

/-- Whether an argument is a variable with its value. -/
def isSetting (arg : Raw) : Bool :=
  arg.contains '=' && arg.head? ≠ some '='

/-- An environment with a variable set. -/
def withSetting (env : Environment) (arg : Raw) : Environment :=
  let (name, value) := Text.cut '=' arg
  if env.any (·.1 = name) then
    env.map fun v => if v.1 = name then (name, value.getD []) else v
  else env ++ [(name, value.getD [])]

/-- Become another program. -/
def Call.become (c : Call) (env : Environment) (name : Raw) (args : List Raw) : Act Exit := do
  match c.start (← get) env name args with
  | .ok (p, exit) =>
    set p
    return exit
  | .error e =>
    c.complain (fileFault name e)
    return .status (if e = .notFound then 127 else 126)

/-- Start another program and wait for its end. -/
def Call.spawn (c : Call) (isCut : Bool) (name : Raw) (args : List Raw) :
    Act (Except IoError Exit) := do
  let (p, number) := (← get).fork
  set p
  let child : Process := { p with number }
  let child := if isCut then child.setHandle 0 (some .nothing) else child
  match c.start child c.env name args with
  | .ok (after, exit) =>
    set (p.after after)
    return .ok exit
  | .error e => return .error e

/-- The words of a text, in at most `fuel` steps: they end at blanks, unless those stand in quotes
or behind a backslash.  `word` is what has been read of a word, backwards, if one has been started.
-/
def splitWords : Nat → Option Char → Bool → Raw → Raw → List Raw → List Raw
  | 0, _, _, _, _, done => done.reverse
  | fuel + 1, quote, isOpen, word, text, done =>
    match quote, text with
    | _, [] => (if isOpen then word.reverse :: done else done).reverse
    | some q, c :: rest =>
      if c = q then splitWords fuel none true word rest done
      else splitWords fuel quote true (c :: word) rest done
    | none, '\\' :: c :: rest => splitWords fuel none true (c :: word) rest done
    | none, c :: rest =>
      if c = '\'' || c = '"' then splitWords fuel (some c) true word rest done
      else if isSpace c then
        splitWords fuel none false [] rest (if isOpen then word.reverse :: done else done)
      else splitWords fuel none true (c :: word) rest done

/-- The words of a text, with quotes taken away. -/
def wordsOf (text : Raw) : List Raw :=
  splitWords (text.length + 1) none false [] text []

/-- Change the environment and become another program, or print the environment. -/
def env (c : Call) : Act Exit := do
  let known : OptionSet :=
    { letters := "i0u:C:S:v"
      long := [("ignore-environment", 'i'), ("null", '0'), ("unset", 'u'), ("chdir", 'C'),
        ("split-string", 'S'), ("debug", 'v')]
      permutes := false }
  match known.read? c.args with
  | none =>
    c.complain (rawString "invalid option")
    return .status 125
  | some g =>
    let operands := (g.values 'S').flatMap wordsOf ++ g.operands
    let (clears, operands) : Bool × List Raw :=
      match operands with
      | ['-'] :: rest => (true, rest)
      | _ => (g.has 'i', operands)
    let base : Environment := if clears then [] else c.env
    let base := base.filter fun v => !(g.values 'u').contains v.1
    let env := (operands.takeWhile isSetting).foldl withSetting base
    let p ← get
    let moved : Except IoError Process :=
      match g.value? 'C' with
      | none => .ok p
      | some dir =>
        match p.files.find p.here true (rawPath dir) with
        | .ok (loc, .directory) => .ok { p with here := loc }
        | .ok _ => .error .notDirectory
        | .error e => .error e
    match moved, operands.dropWhile isSetting with
    | .error e, _ =>
      c.complain (rawString ("cannot change directory: " ++ e.reason))
      return .status 125
    | .ok p, program :: args =>
      set p
      c.become env program args
    | .ok _, [] =>
      let stop : Raw := if g.has '0' then [Char.ofNat 0] else ['\n']
      for v in env do out (setting v ++ stop)
      return .status 0

/-- Become another program that runs with other priorities or in other ways that nothing here shows.
-/
def otherwise (letters : String) (alone : Act Exit) (c : Call) : Act Exit := do
  match ({ letters, permutes := false } : OptionSet).read? c.args with
  | none =>
    c.complain (rawString "invalid option")
    return .status 125
  | some g =>
    match g.operands with
    | program :: args => c.become c.env program args
    | [] => alone

/-- What `timeout` makes of a program's end: `stop` is the time at which it was to end. -/
def timeoutExit (stop : Option Nat) (signal : Nat) (keeps : Bool) (clock : Nat) (exit : Exit) :
    Exit :=
  match stop with
  | some stop =>
    if clock < stop then exit
    else if signal = 9 && exit = .signal 9 then .status 137
    else if keeps then .status exit.seen
    else .status 124
  | none => exit

/-- The signals by their names. -/
def signals : List (String × Nat) :=
  [("HUP", 1), ("INT", 2), ("QUIT", 3), ("ILL", 4), ("TRAP", 5), ("ABRT", 6), ("BUS", 7),
   ("FPE", 8),
    ("KILL", 9), ("USR1", 10), ("SEGV", 11), ("USR2", 12), ("PIPE", 13), ("ALRM", 14),
    ("TERM", 15), ("STKFLT", 16), ("CHLD", 17), ("CONT", 18), ("STOP", 19), ("TSTP", 20),
    ("TTIN", 21), ("TTOU", 22), ("URG", 23), ("XCPU", 24), ("XFSZ", 25), ("VTALRM", 26),
    ("PROF", 27), ("WINCH", 28), ("IO", 29), ("PWR", 30), ("SYS", 31)]

/-- The number of a signal that is given by its name, with or without the three letters in front, or
by its number. -/
def signal? (text : Raw) : Option Nat :=
  if !text.isEmpty && text.all Text.isDigit then
    let n := number text
    if n ≤ 64 then some n else none
  else
    let name := text.map Char.toUpper
    let name := if "SIG".toList.isPrefixOf name then name.drop 3 else name
    signals.lookup (String.ofList name)

/-- Whether a signal ends a program that does nothing about it. -/
def endsProgram (signal : Nat) : Bool :=
  !([0, 17, 18, 19, 20, 21, 22, 23, 28].contains signal)

/-- Run a program for a limited time. -/
def timeout (c : Call) : Act Exit := do
  let known : OptionSet :=
    { letters := "s:k:vpf"
      long := [("signal", 's'), ("kill-after", 'k'), ("verbose", 'v'), ("preserve-status", 'p'),
        ("foreground", 'f')]
      permutes := false }
  let refused : Act Exit := do
    c.complain (rawString "invalid argument")
    return .status 125
  match known.read? c.args with
  | none => refused
  | some g =>
    match g.operands, ((g.value? 's').map signal?).getD (some 15) with
    | time :: program :: args, some signal =>
      match nanoseconds? time with
      | none => refused
      | some nanos =>
        let p ← get
        let old := p.world.limit
        let stop : Option Nat := if nanos = 0 then none else some (p.world.clock + nanos)
        let earlier : Bool := match stop, old with
          | some stop, some (other, _) => stop ≤ other
          | some _, none => true
          | none, _ => false
        if earlier then
          set { p with world := { p.world with limit := stop.map (·, signal) } }
        match ← c.spawn false program args with
        | .error e =>
          modify fun p => { p with world := { p.world with limit := old } }
          c.complain (fileFault program e)
          return .status (if e = .notFound then 127 else 126)
        | .ok exit =>
          if earlier then
            modify fun p => { p with world := { p.world with limit := old, isCut := false } }
            return timeoutExit stop signal (g.has 'p') (← get).world.clock exit
          else return exit
    | _, _ => refused

/-! ### Arguments from input -/

/-- What becomes of the status of a tool that starts programs when one of them ends. -/
def combined (status : Nat) : Exit → Nat × Bool
  | .status 0 => (status, true)
  | .status 255 => (124, false)
  | .status _ => (123, true)
  | .signal _ => (125, false)

/-- Put a text in the place of a mark in a word, in at most `fuel` steps. -/
def replaceMark (mark text : Raw) : Nat → Raw → Raw
  | 0, word => word
  | _, [] => []
  | fuel + 1, c :: rest =>
    if mark.isPrefixOf (c :: rest) then
      text ++ replaceMark mark text fuel ((c :: rest).drop mark.length)
    else c :: replaceMark mark text fuel rest

/-- The items in groups of at most `count` of them and at most so many bytes. -/
def groupItems (count : Nat) (items : List Raw) : List (List Raw) :=
  let step (acc : List (List Raw) × Nat) (item : Raw) : List (List Raw) × Nat :=
    match acc.1 with
    | group :: groups =>
      if group.length < count && acc.2 + item.length + 1 ≤ 131072 then
        ((item :: group) :: groups, acc.2 + item.length + 1)
      else ([item] :: acc.1, item.length + 1)
    | [] => ([[item]], item.length + 1)
  (items.foldl step ([], 0)).1.reverse.map List.reverse

/-- Start a program with arguments from the input. -/
def xargs (c : Call) : Act Exit := do
  let known : OptionSet :=
    { letters := "0d:n:I:L:rtP:s:a:E:xpoi::l::e::"
      long := [("null", '0'), ("delimiter", 'd'), ("max-args", 'n'), ("replace", 'i'),
        ("max-lines", 'l'), ("no-run-if-empty", 'r'), ("verbose", 't'), ("max-procs", 'P'),
        ("arg-file", 'a'), ("max-chars", 's'), ("exit", 'x'), ("eof", 'e')]
      permutes := false }
  match known.read? c.args with
  | none =>
    c.complain (rawString "invalid option")
    return .status 1
  | some g =>
    let input ← match g.value? 'a' with
      | some file => do
        match ← content file with
        | .ok text => pure text
        | .error _ => pure []
      | none => takeInput
    let mark : Option Raw :=
      match g.value? 'I', g.last? ['i'] with
      | some m, _ => some m
      | none, some _ =>
        let m := (g.value? 'i').getD []
        some (if m.isEmpty then "\x7b\x7d".toList else m)
      | none, none => none
    let separator : Option Char :=
      if g.has '0' then some (Char.ofNat 0)
      else (g.value? 'd').map fun d => match d with
        | ['\\', 'n'] => '\n'
        | ['\\', 't'] => '\t'
        | ['\\', '0'] => Char.ofNat 0
        | c :: _ => c
        | [] => '\n'
    let pieces (sep : Char) : List Raw :=
      match (Text.pieces sep input).reverse with
      | [] :: rest => rest.reverse
      | all => all.reverse
    let trimmed (line : Raw) : Raw := line.dropWhile fun c => c = ' ' || c = '\t'
    let perLine := (g.value? 'L').isSome || g.has 'l'
    let items : List Raw :=
      match separator, mark with
      | some sep, _ => pieces sep
      | none, some _ =>
        ((lines input).map fun l => (wordsOf (escapeBlanks (trimmed l))).flatten).filter
          fun l => !l.isEmpty
      | none, none => wordsOf input
    let (program, args) : Raw × List Raw := match g.operands with
      | program :: args => (program, args)
      | [] => ("echo".toList, [])
    let groups : List (List Raw) :=
      match mark with
      | some m => items.map fun item => args.map fun a => replaceMark m item (a.length + 1) a
      | none =>
        let grouped : List (List Raw) :=
          if perLine then
            let count := max 1 (number ((g.value? 'L').getD ((g.value? 'l').getD ['1'])))
            (groupItems count ((lines input).filter fun l => !(wordsOf l).isEmpty)).map fun ls =>
              ls.flatMap wordsOf
          else
            groupItems (((g.value? 'n').map number).getD 100000) items
        let grouped := if grouped.isEmpty && !g.has 'r' then [[]] else grouped
        grouped.map fun group => args ++ group
    let mut status := 0
    let mut goesOn := true
    for words in groups do
      if goesOn then
        if g.has 't' then err (spaced (program :: words))
        match ← c.spawn (!g.has 'o') program words with
        | .ok exit =>
          let (next, goes) := combined status exit
          status := next
          goesOn := goes
        | .error e =>
          c.complain (fileFault program e)
          status := if e = .notFound then 127 else 126
          goesOn := false
    return .status status
where
  /-- A line with its blanks protected, so that it is one word. -/
  escapeBlanks (line : Raw) : Raw :=
    line.flatMap fun c => if c = ' ' || c = '\t' then ['\\', c] else [c]

/-- Print where programs are. -/
def which (c : Call) : Act Nat :=
  c.withOptions { letters := "as" } 2 fun g => do
    let p ← get
    let path := (c.env.lookup "PATH".toList).getD []
    let mut status := if g.operands.isEmpty then 1 else 0
    for name in g.operands do
      let candidates := if name.contains '/' then [name]
        else (searchedDirectories path).map fun dir => below dir name
      let found := candidates.filter fun path =>
        match p.entryAt true path with
        | some (_, .program _) => true
        | some (_, .file _ executable) => executable
        | _ => false
      match found with
      | [] => status := 1
      | first :: _ =>
        if !g.has 's' then
          for path in (if g.has 'a' then found else [first]) do outLine path
    return status

/-- Send signals to programs. -/
def kill (c : Call) : Act Nat := do
  let (signal, targets) : Option Nat × List Raw :=
    match c.args with
    | ['-', 's'] :: name :: rest => (signal? name, rest)
    | ('-' :: name) :: rest => (signal? name, rest)
    | args => (some 15, args)
  match signal, targets.mapM Text.decimal? with
  | some n, some (t :: ts) =>
    modify fun p =>
      { p with world := { p.world with sent := p.world.sent ++ (t :: ts).map (·, n) } }
    return 0
  | _, _ => c.refuse "wrong arguments" 1

end NativeBuild.Tool
