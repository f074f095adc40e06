import NativeBuild.Userland.Shell.Printf
import NativeBuild.Userland.Tool.Basic

/-!
Tools that print what they are told to, or what they know.
-/

namespace NativeBuild.Tool

open Shell

/-- The text that arguments are printed as: options say whether the line ends and whether
backslashes are resolved, if any but those in front are options. -/
def echoText (usually : Bool) (rule : EscapeRule) (args : List Raw) : Raw :=
  let isOption (a : Raw) : Bool :=
    a.head? == some '-' && a.length > 1 && (a.drop 1).all fun c => c = 'n' || c = 'e' || c = 'E'
  let options := (args.takeWhile isOption).flatten
  let text := spaced (args.dropWhile isOption)
  let resolves : Bool := match (options.filter fun c => c = 'e' || c = 'E').getLast? with
    | some c => c = 'e'
    | none => usually
  let (text, goesOn) := if resolves then unescape rule text else (text, true)
  if options.contains 'n' || !goesOn then text else text ++ ['\n']

/-- Print the arguments. -/
def echo (c : Call) : Act Nat := do
  out (echoText false { Dialect.program.argument with quotes := false } c.args)
  return 0

/-- Print by a format. -/
def printfTool (c : Call) : Act Nat := do
  let (text, status) := printWords .program c.args
  out text
  return status

/-- Print the arguments again and again. -/
def yes (c : Call) : Act Nat := do
  let line := (if c.args.isEmpty then ['y'] else spaced c.args) ++ ['\n']
  out (List.replicate (Process.manyZeros / line.length) line).flatten
  return 0

/-- The text of a variable and its value. -/
def setting (v : Raw × Raw) : Raw :=
  v.1 ++ '=' :: v.2

/-- Print variables of the environment. -/
def printenv (c : Call) : Act Nat :=
  c.withOptions { letters := "0", long := [("null", '0')], permutes := false } 2 fun g => do
    let stop : Raw := if g.has '0' then [Char.ofNat 0] else ['\n']
    if g.operands.isEmpty then
      for v in c.env do out (setting v ++ stop)
      return 0
    else
      let mut status := 0
      for name in g.operands do
        match c.env.lookup name with
        | some value => out (value ++ stop)
        | none => status := 1
      return status

/-- The path of a place. -/
def placeText (loc : Location) : Raw :=
  rawText ('/' :: ['/'].intercalate loc)

/-- Print the current directory. -/
def pwd (c : Call) : Act Nat :=
  c.withOptions { letters := "LP", long := [("logical", 'L'), ("physical", 'P')] } 1 fun g => do
    let p ← get
    let logical := (c.env.lookup "PWD".toList).filter fun path =>
      path.head? = some '/' && (match p.files.find p.here true (rawPath path) with
        | .ok (loc, .directory) => loc = p.here
        | _ => false)
    outLine (match g.last? ['L', 'P'], logical with
      | some 'L', some path => path
      | _, _ => placeText p.here)
    return 0

/-- Print who runs the tool. -/
def identity (c : Call) : Act Nat :=
  c.withOptions { letters := "ugGnrz" , long := [("user", 'u'), ("group", 'g'), ("name", 'n')] } 1
    fun g => do
    let isNumber := !g.has 'n'
    if g.has 'u' || g.has 'g' || g.has 'G' then
      outLine (if isNumber then ['0'] else rawString "root")
    else outLine (rawString "uid=0(root) gid=0(root) groups=0(root)")
    return 0

/-- Print what the machine is. -/
def uname (c : Call) : Act Nat :=
  c.withOptions { letters := "asnrvmpio", long := [("all", 'a'), ("machine", 'm')] } 1 fun g => do
    let parts : List (Char × String) :=
      [('s', "Linux"), ('n', "localhost"), ('r', "6.1.0"), ('v', "#1 SMP"), ('m', "x86_64"),
        ('o', "GNU/Linux")]
    let all := g.has 'a'
    let asked := parts.filter fun part => all || g.has part.1 || (g.options.isEmpty && part.1 = 's')
    outLine (spaced (asked.map fun part => rawString part.2))
    return 0

/-- Print a line. -/
def fixedLine (text : String) (_ : Call) : Act Nat := do
  outLine (rawString text)
  return 0

/-- A number with a point as an argument of a sequence: a fraction with a sign, and how many places
are written. -/
structure Step where
  top : Int
  places : Nat

/-- Read a number of a sequence; one with an exponent is taken as it comes out. -/
def Step.read? (text : Raw) : Option Step :=
  let (negative, body) := match text.dropWhile isSpace with
    | '-' :: rest => (true, rest)
    | '+' :: rest => (false, rest)
    | rest => (false, rest)
  match Number.readReal body with
  | some (.finite _ size, []) =>
    let (mantissa, _) := Text.cut 'e' (body.map Char.toLower)
    let places := match Text.cut '.' mantissa with
      | (_, some part) => part.length
      | _ => 0
    if (size.top * Nat.pow 10 places) % size.bottom = 0 then
      let n : Int := (size.top * Nat.pow 10 places / size.bottom : Nat)
      some ⟨if negative then -n else n, places⟩
    else
      let n : Int := (size.roundAtTen (-20) : Nat)
      some ⟨if negative then -n else n, 20⟩
  | _ => none

/-- A number of a sequence as a whole multiple of a smaller unit. -/
def Step.scaled (s : Step) (places : Nat) : Int :=
  s.top * Nat.pow 10 (places - s.places)

/-- The text of a whole multiple of a unit of ten. -/
def pointText (n : Int) (places : Nat) : Raw :=
  (if n < 0 then ['-'] else []) ++ Number.withPoint n.natAbs places false

/-- The numbers from one to another in steps, at most a given number of them. -/
def stepsFrom (first step last : Int) : List Int :=
  if step = 0 then []
  else
    let count := (last - first) / step
    if (0 < step && last < first) || (step < 0 && first < last) then []
    else (List.range (min (count.toNat + 1) 1000000)).map fun (k : Nat) => first + step * (k : Int)

/-- Arguments with a mark between the options and the numbers, which may start with a sign. -/
def markNumbers : List Raw → List Raw
  | [] => []
  | ['-', '-'] :: rest => ['-', '-'] :: rest
  | ['-', 's'] :: value :: rest => ['-', 's'] :: value :: markNumbers rest
  | ['-', 'f'] :: value :: rest => ['-', 'f'] :: value :: markNumbers rest
  | ('-' :: d :: more) :: rest =>
    if Text.isDigit d || d = '.' then ['-', '-'] :: ('-' :: d :: more) :: rest
    else ('-' :: d :: more) :: markNumbers rest
  | args => ['-', '-'] :: args

/-- Print numbers from one to another. -/
def seq (c : Call) : Act Nat :=
  let known : OptionSet :=
    { letters := "f:s:w", long := [("format", 'f'), ("separator", 's'), ("equal-width", 'w')]
      permutes := false }
  { c with args := markNumbers c.args }.withOptions known 1 fun g => do
    match g.operands.mapM Step.read? with
    | none => c.refuse "invalid floating point argument" 1
    | some ns =>
      let bounds : Option (Step × Step × Step) := match ns with
        | [last] => some (⟨1, 0⟩, ⟨1, 0⟩, last)
        | [first, last] => some (first, ⟨1, 0⟩, last)
        | [first, step, last] => some (first, step, last)
        | _ => none
      match bounds with
      | none => c.refuse "wrong number of operands" 1
      | some (first, step, last) =>
        if step.top = 0 then c.refuse "zero increment" 1
        else
          let fine := max (max first.places step.places) last.places
          let places := max first.places step.places
          let values := stepsFrom (first.scaled fine) (step.scaled fine) (last.scaled fine)
          let shown (n : Int) : Raw := pointText (n / Nat.pow 10 (fine - places)) places
          let texts := values.map shown
          let lastText := pointText (last.scaled fine / Nat.pow 10 (fine - places)) places
          let width := max (shown (first.scaled fine)).length lastText.length
          let padded (text : Raw) : Raw :=
            match text with
            | '-' :: rest => '-' :: (List.replicate (width - text.length) '0' ++ rest)
            | _ => List.replicate (width - text.length) '0' ++ text
          let texts := match g.value? 'f' with
            | some format => values.map fun n =>
                (printf .program format [pointText n fine]).1
            | none => if g.has 'w' then texts.map padded else texts
          let gap := (g.value? 's').getD ['\n']
          if !texts.isEmpty then outLine (gap.intercalate texts)
          return 0

/-- The number of nanoseconds that an argument with a unit stands for. -/
def nanoseconds? (text : Raw) : Option Nat :=
  match Number.readReal text with
  | some (.finite false size, rest) =>
    let units : List (String × Nat) := [("", 1), ("s", 1), ("m", 60), ("h", 3600), ("d", 86400)]
    (units.lookup (String.ofList rest)).map fun unit =>
      size.top * unit * 1000000000 / size.bottom
  | some (.infinite false, []) => some 1000000000000000000
  | _ => none

/-- Let time pass. -/
def sleep (c : Call) : Act Nat :=
  c.withOptions { letters := "" } 1 fun g => do
    match g.operands.mapM nanoseconds? with
    | some [] => c.refuse "missing operand" 1
    | none => c.refuse "invalid time interval" 1
    | some times =>
      modify fun p => { p with world := p.world.wait (times.foldl (· + ·) 0) }
      return 0

/-- The last part of a path, without a given ending. -/
def lastPart (path ending : Raw) : Raw :=
  let path := (Files.withoutSlashes ⟨path⟩).chars
  let name := if path = ['/'] then path else (path.reverse.takeWhile (· ≠ '/')).reverse
  if !ending.isEmpty && ending ≠ name && ending.isSuffixOf name then
    name.take (name.length - ending.length)
  else name

/-- Print the last parts of paths. -/
def basename (c : Call) : Act Nat :=
  let known : OptionSet :=
    { letters := "as:z", long := [("multiple", 'a'), ("suffix", 's'), ("zero", 'z')]
      permutes := false }
  c.withOptions known 1 fun g => do
    let stop : Raw := if g.has 'z' then [Char.ofNat 0] else ['\n']
    if g.operands.isEmpty then c.refuse "missing operand" 1
    else if g.has 'a' || g.has 's' then
      for path in g.operands do out (lastPart path ((g.value? 's').getD []) ++ stop)
      return 0
    else
      match g.operands with
      | [path] =>
        out (lastPart path [] ++ stop)
        return 0
      | [path, ending] =>
        out (lastPart path ending ++ stop)
        return 0
      | _ => c.refuse "extra operand" 1

/-- A path without its last part. -/
def abovePart (path : Raw) : Raw :=
  let path := (Files.withoutSlashes ⟨path⟩).chars
  let above := path.reverse.dropWhile (· ≠ '/')
  if above.isEmpty then ['.'] else (Files.withoutSlashes ⟨above.reverse⟩).chars

/-- Print paths without their last parts. -/
def dirname (c : Call) : Act Nat :=
  c.withOptions { letters := "z", long := [("zero", 'z')], permutes := false } 1 fun g => do
    let stop : Raw := if g.has 'z' then [Char.ofNat 0] else ['\n']
    if g.operands.isEmpty then c.refuse "missing operand" 1
    else
      for path in g.operands do out (abovePart path ++ stop)
      return 0

/-- The prime factors of a number from a divisor on, in at most `fuel` steps. -/
def factorsFrom : Nat → Nat → Nat → List Nat
  | 0, _, n => if n > 1 then [n] else []
  | fuel + 1, d, n =>
    if n < d * d then if n > 1 then [n] else []
    else if n % d = 0 then d :: factorsFrom fuel d (n / d)
    else factorsFrom fuel (d + 1) n

/-- Print prime factors. -/
def factor (c : Call) : Act Nat := do
  let numbers ← if c.args.isEmpty then do pure (fieldsOfText (← takeInput)) else pure c.args
  let mut status := 0
  for text in numbers do
    match Text.decimal? text with
    | some n =>
      outLine (text ++ ':' :: (factorsFrom 100000 2 n).flatMap fun d => ' ' :: Text.decimal d)
    | none => status := 1
  return status
where
  /-- The words of a text. -/
  fieldsOfText (text : Raw) : List Raw :=
    (Text.pieces ' ' (text.map fun c => if isSpace c then ' ' else c)).filter fun f => !f.isEmpty

end NativeBuild.Tool
