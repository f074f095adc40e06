import NativeBuild.Userland.Condition

/-!
The small programs that the system brings along.  Each takes its arguments and the environment, acts
on the program that it runs as, and leaves a status.
-/

namespace NativeBuild.Tool

open Shell

/-- What a tool does to the program that it runs as. -/
abbrev Act := StateM Process

/-- The environment of a program. -/
abbrev Environment := List (Raw × Raw)

/-- What starts a program: from an environment, a name and arguments, and what it will run as. -/
abbrev Starter := Process → Environment → Raw → List Raw → Except IoError (Process × Exit)

/-- What a tool is called with.  `name` is the one that it was called by. -/
structure Call where
  name : Raw
  args : List Raw
  env : Environment
  start : Starter

/-- Write output. -/
def out (text : Raw) : Act Unit :=
  modify fun p => p.write 1 text

/-- Write a line of output. -/
def outLine (text : Raw) : Act Unit :=
  out (text ++ ['\n'])

/-- Write a message about an error. -/
def err (text : Raw) : Act Unit :=
  modify fun p => p.write 2 (text ++ ['\n'])

/-- Write a message about an error in the name of a tool. -/
def Call.complain (c : Call) (text : Raw) : Act Unit :=
  err (c.name ++ rawString ": " ++ text)

/-- Write a message and give a status. -/
def Call.refuse (c : Call) (message : String) (status : Nat) : Act Nat := do
  c.complain (rawString message)
  return status

/-- Take all input. -/
def takeInput : Act Raw := fun p =>
  ((p.pending 0).text, p.leave 0 [])

/-- The bytes of a named file; a dash is the input. -/
def content (name : Raw) : Act (Except IoError Raw) := do
  if name = ['-'] then return .ok (← takeInput)
  else
    let p ← get
    match p.readFile (rawPath name) with
    | .ok (p, text) =>
      set p
      return .ok text
    | .error e => return .error e

/-- What a message says of a file that could not be read. -/
def fileFault (name : Raw) (e : IoError) : Raw :=
  name ++ rawString (": " ++ e.reason)

/-- The bytes of named files one after the other, or of the input if there are none; the status
tells whether all could be read. -/
def contents (c : Call) (names : List Raw) (fault : Nat) : Act (Raw × Nat) := do
  let mut all : List Raw := []
  let mut status := 0
  for name in (if names.isEmpty then [['-']] else names) do
    match ← content name with
    | .ok text => all := text :: all
    | .error e =>
      c.complain (fileFault name e)
      status := fault
  return (all.reverse.flatten, status)

/-- Put a change of the files into effect; if it fails, a message says so. -/
def change (c : Call) (about : Raw) (how : Process → Except IoError Process) : Act Bool := do
  match how (← get) with
  | .ok p =>
    set p
    return true
  | .error e =>
    c.complain (fileFault about e)
    return false

/-! ### Options -/

/-- The options that a tool knows.  `letters` has a colon behind each letter that takes a value, and
two behind one that may have a value attached to it.  A long name stands for a letter. -/
structure OptionSet where
  letters : String
  long : List (String × Char) := []
  permutes : Bool := true

/-- How an option takes a value. -/
inductive Takes where
  | nothing
  | value
  | attached
  deriving DecidableEq

/-- The options given, in order, with their values, and the other arguments. -/
structure Given where
  options : List (Char × Raw)
  operands : List Raw

namespace OptionSet

/-- How a letter takes a value, if it is known. -/
def takes? (set : OptionSet) (c : Char) : Option Takes :=
  match set.letters.toList.dropWhile (· ≠ c) with
  | _ :: ':' :: ':' :: _ => some .attached
  | _ :: ':' :: _ => some .value
  | _ :: _ => if c = ':' then none else some .nothing
  | [] => none

/-- The letter of a long name, which may be cut short if that leaves no doubt. -/
def letter? (set : OptionSet) (name : Raw) : Option Char :=
  match set.long.find? fun l => l.1.toList = name with
  | some l => some l.2
  | none =>
    match (set.long.filter fun l => name.isPrefixOf l.1.toList).map Prod.snd with
    | [] => none
    | c :: more => if more.all (· = c) then some c else none

/-- Read the letters of an argument; `none` if one is unknown or lacks its value. -/
def readLetters (set : OptionSet) : Raw → List Raw → Option (List (Char × Raw) × List Raw)
  | [], args => some ([], args)
  | c :: more, args =>
    if 128 ≤ c.toNat then none
    else
      match set.takes? c with
      | none => none
      | some .nothing =>
        (readLetters set more args).map fun (options, args) => ((c, []) :: options, args)
      | some .attached => some ([(c, more)], args)
      | some .value =>
        if more.isEmpty then
          match args with
          | value :: args => some ([(c, value)], args)
          | [] => none
        else some ([(c, more)], args)

/-- Read arguments, in at most `fuel` steps. -/
def readWithin (set : OptionSet) : Nat → List Raw → Option Given
  | 0, args => some ⟨[], args⟩
  | _, [] => some ⟨[], []⟩
  | fuel + 1, arg :: args =>
    let also (options : List (Char × Raw)) (args : List Raw) : Option Given :=
      (readWithin set fuel args).map fun g => { g with options := options ++ g.options }
    match arg with
    | ['-', '-'] => some ⟨[], args⟩
    | '-' :: '-' :: text => do
      let (name, value) := Text.cut '=' text
      let c ← set.letter? name
      match ← set.takes? c, value with
      | .nothing, none => also [(c, [])] args
      | .nothing, some _ => none
      | .attached, value => also [(c, value.getD [])] args
      | .value, some value => also [(c, value)] args
      | .value, none =>
        match args with
        | value :: args => also [(c, value)] args
        | [] => none
    | '-' :: c :: more => do
      let (options, args) ← set.readLetters (c :: more) args
      also options args
    | _ =>
      if set.permutes then
        (readWithin set fuel args).map fun g => { g with operands := arg :: g.operands }
      else some ⟨[], arg :: args⟩

/-- Read arguments; `none` if one of the options is unknown or lacks its value. -/
def read? (set : OptionSet) (args : List Raw) : Option Given :=
  set.readWithin (args.length + 1) args

end OptionSet

namespace Given

/-- Whether an option is given. -/
def has (g : Given) (c : Char) : Bool :=
  g.options.any (·.1 = c)

/-- The value of an option that is given; the last one counts. -/
def value? (g : Given) (c : Char) : Option Raw :=
  g.options.reverse.lookup c

/-- All values of an option that is given. -/
def values (g : Given) (c : Char) : List Raw :=
  g.options.filterMap fun o => if o.1 = c then some o.2 else none

/-- Which of some options was given last. -/
def last? (g : Given) (cs : List Char) : Option Char :=
  (g.options.reverse.find? fun o => cs.contains o.1).map Prod.fst

end Given

/-- Read the options of a call and go on with them; if they are wrong, there is a message and a
status. -/
def Call.withOptions (c : Call) (set : OptionSet) (fault : Nat) (act : Given → Act Nat) : Act Nat :=
  match set.read? c.args with
  | some given => act given
  | none => c.refuse "invalid option" fault

/-- A whole number that may have a letter for a multiple behind it. -/
def sized? (text : Raw) : Option Nat := do
  let digits := text.takeWhile Text.isDigit
  let rest := String.ofList (text.drop digits.length)
  if digits.isEmpty then none
  else
    let units : List (String × Nat) :=
      [("", 1), ("b", 512), ("kB", 1000), ("K", 1024), ("k", 1024), ("KiB", 1024), ("MB", 1000000),
        ("M", 1048576), ("m", 1048576), ("MiB", 1048576), ("GB", 1000000000), ("G", 1073741824),
        ("GiB", 1073741824)]
    let unit ← units.lookup rest
    some (Text.decimalValue digits * unit)

/-- A text filled up with blanks in front. -/
def padLeft (width : Nat) (text : Raw) : Raw :=
  List.replicate (width - text.length) ' ' ++ text

/-- A text filled up with blanks behind. -/
def padRight (width : Nat) (text : Raw) : Raw :=
  text ++ List.replicate (width - text.length) ' '

end NativeBuild.Tool
