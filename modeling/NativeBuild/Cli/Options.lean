import NativeBuild.Path.Basic
import NativeBuild.Text.Decimal

/-!
The command line: which command is meant, and with which options.  Every other command line is
refused.
-/

namespace NativeBuild.Cli

/-- The options of the command that builds a project. -/
structure BuildOptions where
  root : Option Path := none
  manifest : Option Path := none
  jobs : Option Nat := none
  inline : Bool := false
  strict : Bool := false
  noRun : Bool := false

/-- How information is written. -/
inductive InfoFormat where
  | text
  | json
  deriving DecidableEq

/-- The options of the command that informs about a project. -/
structure InfoOptions where
  root : Option Path := none
  format : InfoFormat := .text

/-- What a command line asks for. -/
inductive Invocation where
  | version
  | help
  | build (options : BuildOptions)
  | info (options : InfoOptions)

/-- The root of the project that is asked for, if it is given. -/
def Invocation.root? : Invocation → Option Path
  | .build options => options.root
  | .info options => options.root
  | _ => none

/-- What an option means to a command: a mark that is set, a value that is read, the version, or
help. -/
inductive OptionKind where
  | mark
  | value
  | version
  | help
  deriving DecidableEq

/-- An option of a command: its long name, its letter, if it has one, and its meaning. -/
structure OptionSpec where
  long : String
  letter : Option Char
  kind : OptionKind

/-- An option that was given, with its value, if it takes one. -/
structure Given where
  long : String
  value : String

/-- The options of a command, and how one that is given is taken into those before it; an option
whose value makes no sense is refused. -/
structure OptionSet (α : Type) where
  specs : List OptionSpec
  take : α → Given → Option α

/-- Options that have been taken in: their long names, and what they come to. -/
structure Taken (α : Type) where
  names : List String
  options : α

/-- What stands in front of the first argument that is no option: options, with the arguments that
follow them, or an option that is answered at once. -/
inductive Scanned (α : Type) where
  | options (taken : Taken α) (rest : List String)
  | answer (i : Invocation)

/-- Whether an argument looks like an option; a dash alone does not. -/
def looksLikeOption (arg : String) : Bool :=
  match arg.toList with
  | '-' :: _ :: _ => true
  | _ => false

/-- The value of an option that stands in the next argument, and the arguments after it. -/
def nextValue : List String → Option (String × List String)
  | [] => none
  | arg :: rest => if looksLikeOption arg then none else some (arg, rest)

/-- Split a long option at its equals sign. -/
def splitLong (chars : List Char) : String × Option String :=
  let name := chars.takeWhile (· ≠ '=')
  match chars.dropWhile (· ≠ '=') with
  | [] => (String.ofList name, none)
  | _ :: value => (String.ofList name, some (String.ofList value))

namespace OptionSet

variable {α : Type} (set : OptionSet α)

/-- Take in one option, which may not be given twice. -/
def add (taken : Taken α) (long value : String) : Option (Taken α) :=
  if taken.names.contains long then none
  else (set.take taken.options ⟨long, value⟩).map fun options => ⟨long :: taken.names, options⟩

/-- Read a cluster of letters.  The first that takes a value takes the rest of the cluster, or the
next argument if there is none. -/
def scanLetters (rest : List String) : List Char → Taken α → Option (Scanned α)
  | [], taken => some (.options taken rest)
  | c :: more, taken =>
    match set.specs.find? (·.letter == some c) with
    | none => none
    | some spec =>
      match spec.kind with
      | .mark => (set.add taken spec.long "").bind (scanLetters rest more)
      | .version => some (.answer .version)
      | .help => some (.answer .help)
      | .value =>
        match more with
        | [] =>
          (nextValue rest).bind fun (v, rest) =>
            (set.add taken spec.long v).map fun taken => .options taken rest
        | '=' :: v =>
          (set.add taken spec.long (String.ofList v)).map fun taken => .options taken rest
        | v => (set.add taken spec.long (String.ofList v)).map fun taken => .options taken rest

/-- Read one long option. -/
def scanLong (rest : List String) (chars : List Char) (taken : Taken α) : Option (Scanned α) :=
  let (name, value) := splitLong chars
  match set.specs.find? (·.long == name) with
  | none => none
  | some spec =>
    match spec.kind, value with
    | .value, some v => (set.add taken name v).map fun taken => .options taken rest
    | .value, none =>
      (nextValue rest).bind fun (v, rest) =>
        (set.add taken name v).map fun taken => .options taken rest
    | _, some _ => none
    | .mark, none => (set.add taken name "").map fun taken => .options taken rest
    | .version, none => some (.answer .version)
    | .help, none => some (.answer .help)

/-- Read options up to the first argument that is none, in at most `fuel` arguments.  A double dash
ends them, and nothing may follow it. -/
def scanWithin : Nat → Taken α → List String → Option (Scanned α)
  | 0, taken, args => some (.options taken args)
  | fuel + 1, taken, args =>
    let goOn : Scanned α → Option (Scanned α)
      | .answer i => some (.answer i)
      | .options taken rest => scanWithin fuel taken rest
    match args with
    | [] => some (.options taken [])
    | arg :: rest =>
      match arg.toList with
      | ['-', '-'] => if rest.isEmpty then some (.options taken []) else none
      | '-' :: '-' :: chars => (set.scanLong rest chars taken).bind goOn
      | '-' :: c :: chars => (set.scanLetters rest (c :: chars) taken).bind goOn
      | _ => some (.options taken args)

/-- Read the options in front of a list of arguments. -/
def scan (initial : α) (args : List String) : Option (Scanned α) :=
  set.scanWithin (args.length + 1) ⟨[], initial⟩ args

end OptionSet

/-- The options that every command takes. -/
def commonSpecs : List OptionSpec :=
  [⟨"verbose", some 'v', .mark⟩, ⟨"help", some 'h', .help⟩]

/-- The options in front of a command. -/
def leadingSpecs : List OptionSpec :=
  ⟨"version", some 'V', .version⟩ :: commonSpecs

/-- The options of the command that builds. -/
def buildSpecs : List OptionSpec :=
  [⟨"root", some 'C', .value⟩, ⟨"manifest", none, .value⟩, ⟨"jobs", some 'j', .value⟩,
    ⟨"inline", none, .mark⟩, ⟨"strict", none, .mark⟩, ⟨"no-run", none, .mark⟩] ++ commonSpecs

/-- The options of the command that informs. -/
def infoSpecs : List OptionSpec :=
  [⟨"root", some 'C', .value⟩, ⟨"output", some 'o', .value⟩] ++ commonSpecs

/-- A path given as the value of an option; it may not be empty. -/
def pathValue? (value : String) : Option Path :=
  if value.isEmpty then none else some (Path.ofString value)

/-- Take an option into those of the command that builds. -/
def BuildOptions.add (o : BuildOptions) (g : Given) : Option BuildOptions :=
  match g.long with
  | "root" => (pathValue? g.value).map fun p => { o with root := some p }
  | "manifest" => (pathValue? g.value).map fun p => { o with manifest := some p }
  | "jobs" => (Text.unsigned64? g.value.toList).map fun n => { o with jobs := some n }
  | "inline" => some { o with inline := true }
  | "strict" => some { o with strict := true }
  | "no-run" => some { o with noRun := true }
  | _ => some o

/-- Take an option into those of the command that informs. -/
def InfoOptions.add (o : InfoOptions) (g : Given) : Option InfoOptions :=
  match g.long with
  | "root" => (pathValue? g.value).map fun p => { o with root := some p }
  | "output" =>
    match g.value with
    | "text" => some { o with format := .text }
    | "json" => some { o with format := .json }
    | _ => none
  | _ => some o

/-- The options in front of a command, of which nothing is kept. -/
def leadingOptions : OptionSet Unit :=
  ⟨leadingSpecs, fun _ _ => some ()⟩

/-- A command with the options behind its name; it takes no other arguments. -/
def command {α : Type} (set : OptionSet α) (initial : α) (make : α → Invocation)
    (args : List String) : Option Invocation :=
  match set.scan initial args with
  | some (.options taken []) => some (make taken.options)
  | some (.answer i) => some i
  | _ => none

/-- What a command line asks for, if it is understood. -/
def Invocation.ofArgs? (args : List String) : Option Invocation :=
  match leadingOptions.scan () args with
  | some (.answer i) => some i
  | some (.options _ ("build" :: rest)) => command ⟨buildSpecs, BuildOptions.add⟩ {} .build rest
  | some (.options _ ("info" :: rest)) => command ⟨infoSpecs, InfoOptions.add⟩ {} .info rest
  | some (.options _ ["help"]) => some .help
  | some (.options _ ["help", name]) =>
    if name = "build" || name = "info" || name = "help" then some .help else none
  | _ => none

end NativeBuild.Cli
