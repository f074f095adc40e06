import NativeBuild.Userland.Process
import NativeBuild.Userland.Shell.Parse

/-!
The state of a running shell.
-/

namespace NativeBuild.Shell

/-- The value of a variable: a text, a list of items by their numbers, or a table of items by their
keys. -/
inductive Value where
  | text (value : Raw)
  | list (items : List (Nat × Raw))
  | table (items : List (Raw × Raw))
  deriving DecidableEq

/-- A variable, which may have no value yet.  One that is a `number` gets the values of sums, and
one that `refers` is another name for the variable that its value names. -/
structure Variable where
  value : Option Value := none
  exported : Bool := false
  constant : Bool := false
  number : Bool := false
  upper : Bool := false
  lower : Bool := false
  refers : Bool := false

/-- What a shell is asked to do: end at a failure, refuse variables that are not set, leave patterns
alone, export whatever is set, refuse to write to files that are there, let a pipeline fail with any
of its stages, show commands, and run nothing. -/
structure Options where
  errexit : Bool := false
  nounset : Bool := false
  noglob : Bool := false
  allexport : Bool := false
  noclobber : Bool := false
  pipefail : Bool := false
  xtrace : Bool := false
  noexec : Bool := false
  monitor : Bool := false
  inheritErrors : Bool := false
  deriving DecidableEq

/-- The further wishes that the rich language knows, by their names. -/
abbrev Wishes := List String

/-- How control leaves a script: to what follows it, out of the shell, by a signal, out of a
function, out of or on with a number of loops, or to the next line of the text that is being run. -/
inductive Flow where
  | next
  | exit
  | killed (signal : Nat)
  | return
  | break (loops : Nat)
  | continue (loops : Nat)
  | abandon
  deriving DecidableEq

/-- Where a shell has its script from: an argument, its input or a file. -/
inductive Source where
  | argument
  | input
  | file
  deriving DecidableEq

/-- A part of a script that runs beside the others: its number, the time at which it was started,
and what it does to the world.  It is run when it is waited for. -/
structure Job where
  number : Nat
  started : Nat
  run : World → World × Exit

/-- An entry in the list of the jobs of a shell: the place by which the job is known there, its
number, what its stages are shown as, how it has ended, and whether it has been waited for. -/
structure Ticket where
  place : Nat
  number : Nat
  stages : List Raw
  exit : Option Exit := none
  isTaken : Bool := false

/-- What a shell runs at a signal, or at its end. -/
structure Trap where
  signal : Nat
  action : Raw

/-- A running shell.  `leader` is the number that it goes by, which the shells within it share.
`hidden` are the variables that the function it is in has as its own, with what they were before;
`guarded` says that failures are looked at and do not end the shell; `loops` and `depth` are the
numbers of loops and functions around the place it is at, which is in the line of that number;
`broken` says that a word could not be filled in, and `doomed` that the shell cannot go on for that
reason; `captured` is the status of the last script whose output was taken; `tickets` is the list of
its jobs, the newest one first; `tracked` are the programs that have been looked up, with how often;
`letters` is how far the options of the arguments have been read within one of them; `nested` is a
shell within another one; `isLast` says that nothing is left to be run there, so that the next
program takes its place.  `outlets` are scripts that read what is written to a descriptor: the
descriptor, the buffer and the script. -/
structure State extends Process where
  language : Language
  leader : Nat
  parent : Nat := 1
  name : Raw
  args : List Raw
  vars : List (Raw × Variable) := []
  functions : List (Raw × Script) := []
  aliases : List (Raw × Raw) := []
  hidden : List (Raw × Option Variable) := []
  options : Options := {}
  wishes : Wishes := []
  traps : List Trap := []
  jobs : List Job := []
  tickets : List Ticket := []
  lastJob : Option Nat := none
  status : Nat := 0
  captured : Option Nat := none
  letters : Nat := 0
  tracked : List (Raw × Nat) := []
  loops : Nat := 0
  depth : Nat := 0
  functionNames : List Raw := []
  line : Nat := 1
  guarded : Bool := false
  broken : Bool := false
  doomed : Bool := false
  nested : Bool := false
  source : Source := .file
  isLast : Bool := false
  outlets : List (Nat × Nat × Raw) := []

/-- How a script is run in a state. -/
abbrev Go := Script → State → State × Flow

namespace State

/-- Whether the shell speaks the rich language. -/
def isRich (s : State) : Bool :=
  s.language = .rich

/-- The shell with a change to what it is as a program. -/
def onProcess (s : State) (change : Process → Process) : State :=
  { s with toProcess := change s.toProcess }

/-- Write to a descriptor. -/
def say (s : State) (descriptor : Nat) (text : Raw) : State :=
  s.onProcess fun p => p.write descriptor text

/-- Write a message about an error. -/
def complain (s : State) (message : Raw) : State :=
  let place := (if s.isRich then rawString "line " else []) ++ Text.decimal s.line
  s.say 2 (s.name ++ rawString ": " ++ place ++ rawString ": " ++ message ++ ['\n'])

/-- Write a message about an error and note that a word could not be filled in. -/
def fault (s : State) (message : Raw) : State :=
  { s.complain message with broken := true }

/-- Write a message about an error after which the shell cannot go on. -/
def doom (s : State) (message : Raw) : State :=
  { s.fault message with doomed := true }

/-- What the shell reads scripts as. -/
def grammar (s : State) : Grammar :=
  { language := s.language
    choices := s.isRich && s.wishes.contains "extglob"
    aliases := if s.isRich && !s.wishes.contains "expand_aliases" then [] else s.aliases }

/-- A variable, if there is one. -/
def var? (s : State) (name : Raw) : Option Variable :=
  s.vars.lookup name

/-- Put a variable in the place of what it was. -/
def putVariable (s : State) (name : Raw) (v : Variable) : State :=
  if s.vars.any (·.1 = name) then
    { s with vars := s.vars.map fun old => if old.1 = name then (name, v) else old }
  else { s with vars := (name, v) :: s.vars }

/-- Take a variable away. -/
def dropVariable (s : State) (name : Raw) : State :=
  { s with vars := s.vars.filter (·.1 ≠ name) }

/-- Give a variable back what it was before. -/
def restore (s : State) (before : Raw × Option Variable) : State :=
  match before with
  | (name, some v) => s.putVariable name v
  | (name, none) => s.dropVariable name

/-- The text of an item of a value; a text counts as its only item. -/
def itemOf (v : Value) (key : Raw) (place : Nat) : Option Raw :=
  match v with
  | .text t => if place = 0 then some t else none
  | .list items => items.lookup place
  | .table items => items.lookup key

/-- The items of a value in order. -/
def itemsOf (v : Value) : List Raw :=
  match v with
  | .text t => [t]
  | .list items => items.map Prod.snd
  | .table items => items.map Prod.snd

/-- The keys of the items of a value in order. -/
def keysOf (v : Value) : List Raw :=
  match v with
  | .text _ => [['0']]
  | .list items => items.map fun item => Text.decimal item.1
  | .table items => items.map Prod.fst

/-- The value of a variable as a text: for a list, that of its first item. -/
def textOf (v : Value) : Option Raw :=
  match v with
  | .text t => some t
  | .list items => items.lookup 0
  | .table items => items.lookup ['0']

/-- The text of a variable, if it is set. -/
def get? (s : State) (name : Raw) : Option Raw :=
  ((s.var? name).bind (·.value)).bind textOf

/-- The variable that a name stands for, which may be another name. -/
def resolve (s : State) (name : Raw) : Raw :=
  match s.var? name with
  | some v => if v.refers then (v.value.bind textOf).getD name else name
  | none => name

/-- A text in the case that a variable asks for. -/
def Variable.shape (v : Variable) (text : Raw) : Raw :=
  if v.upper then text.map Char.toUpper
  else if v.lower then text.map Char.toLower
  else text

/-- Put an item into a list, in order. -/
def insertItem (place : Nat) (text : Raw) (items : List (Nat × Raw)) : List (Nat × Raw) :=
  items.filter (·.1 < place) ++ (place, text) :: items.filter (place < ·.1)

/-- Put an item into a table; a new key comes last. -/
def insertKey (key text : Raw) (items : List (Raw × Raw)) : List (Raw × Raw) :=
  if items.any (·.1 = key) then items.map fun item => if item.1 = key then (key, text) else item
  else items ++ [(key, text)]

/-- Note that a program has been looked up, and how often it was run then. -/
def track (s : State) (name : Raw) (times : Nat) : State :=
  if name.contains '/' then s
  else if s.tracked.any (·.1 = name) then
    { s with tracked := s.tracked.map fun t => if t.1 = name then (name, t.2 + times) else t }
  else { s with tracked := s.tracked ++ [(name, times)] }

/-- Give a variable a value; a constant refuses it. -/
def assign (s : State) (name : Raw) (value : Value) : State :=
  let name := s.resolve name
  let old := (s.var? name).getD {}
  if old.constant then
    s.fault (name ++ rawString (if s.isRich then ": readonly variable" else ": is read only"))
  else
    let shaped : Value := match value with
      | .text t => .text (Variable.shape old t)
      | _ => value
    let value : Value := match old.value, shaped with
      | some (.list items), .text t => .list (insertItem 0 t items)
      | some (.table items), .text t => .table (insertKey ['0'] t items)
      | _, _ => shaped
    let s := if name = "OPTIND".toList then { s with letters := 0 } else s
    let s := if name = "PATH".toList then { s with tracked := [] } else s
    s.putVariable name
      { old with value := some value, exported := old.exported || s.options.allexport }

/-- Give a variable a text. -/
def set (s : State) (name value : Raw) : State :=
  s.assign name (.text value)

/-- Give a variable a text; the name is a plain string. -/
def setNamed (s : State) (name : String) (value : Raw) : State :=
  s.set name.toList value

/-- The letters of the options that are set, in the order that the language has for them. -/
def optionLetters (s : State) : Raw :=
  let o := s.options
  let shown : List (Char × Bool) :=
    match s.language with
    | .plain =>
      [('u', o.nounset), ('a', o.allexport), ('C', o.noclobber), ('x', o.xtrace),
        ('s', s.source = .input), ('n', o.noexec), ('m', o.monitor), ('f', o.noglob),
        ('e', o.errexit)]
    | .rich =>
      [('a', o.allexport), ('e', o.errexit), ('f', o.noglob), ('h', true), ('m', o.monitor),
        ('n', o.noexec), ('u', o.nounset), ('x', o.xtrace), ('B', true), ('C', o.noclobber),
        ('c', s.source = .argument), ('s', s.source = .input)]
  shown.filterMap fun item => if item.2 then some item.1 else none

/-- The words of a value that is asked for by a special name or a number, if it is set. -/
def special? (s : State) (name : Raw) : Option (Option Raw) :=
  match name with
  | ['#'] => some (some (Text.decimal s.args.length))
  | ['?'] => some (some (Text.decimal s.status))
  | ['$'] => some (some (Text.decimal s.leader))
  | ['!'] => some (s.lastJob.map Text.decimal)
  | ['-'] => some (some s.optionLetters)
  | ['@'] => some (if s.args.isEmpty then none else some (spaced s.args))
  | ['*'] => some (if s.args.isEmpty then none else some (spaced s.args))
  | ['0'] => some (some s.name)
  | _ =>
    if name.all Text.isDigit then some s.args[Text.decimalValue name - 1]?
    else if !s.isRich then none
    else
      match String.ofList name with
      | "BASHPID" => some (some (Text.decimal s.number))
      | "SECONDS" => some (some (Text.decimal (s.files.clock / 1000000000)))
      | "RANDOM" => some (some (Text.decimal ((s.world.next * 7919) % 32768)))
      | "LINENO" => some (some (Text.decimal s.line))
      | _ => none

/-- The text of a variable, an argument or a special name, if it is set. -/
def value? (s : State) (name : Raw) : Option Raw :=
  match s.special? name with
  | some value => value
  | none => s.get? (s.resolve name)

/-- The characters that fields are split at. -/
def separators (s : State) : Raw :=
  (s.get? "IFS".toList).getD [' ', '\t', '\n']

/-- The environment that a program started by the shell sees. -/
def environment (s : State) : List (Raw × Raw) :=
  (s.vars.filterMap fun (name, v) =>
    if v.exported then (v.value.bind textOf).map (name, ·) else none).reverse

/-- The name of the directory that the shell is in. -/
def directory (s : State) : Raw :=
  (s.get? "PWD".toList).getD (rawText ('/' :: ['/'].intercalate s.here))

end State

end NativeBuild.Shell
