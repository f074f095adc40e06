import NativeBuild.Userland.Calendar
import NativeBuild.Userland.Shell.Quoted
import NativeBuild.Userland.Shell.Sum
import NativeBuild.Userland.Fixed

/-!
Printing by a format: plain characters, escapes and directives that each take one argument.  The
format is used again for as long as arguments are left.
-/

namespace NativeBuild.Shell

/-- Which escapes are known beside the usual ones: bytes and characters in hexadecimal digits,
quotes, the end of all output, and a zero in front of three octal digits. -/
structure EscapeRule where
  hex : Bool
  quotes : Bool
  stops : Bool
  longOctal : Bool

/-- How a program that prints reads escapes, in a format and in an argument; which status it gives
if it does not know a directive or has no format; how many binary digits its numbers have; and
whether it can print words as a shell reads them; and what time it is where times can be printed. -/
structure Dialect where
  format : EscapeRule
  argument : EscapeRule
  badDirective : Nat
  noFormat : Nat
  precision : Nat
  quotesWords : Bool
  backslashes : Bool
  now : Option Int := none

namespace Dialect

/-- How the plain shell prints. -/
def plain : Dialect :=
  ⟨⟨false, false, false, false⟩, ⟨false, false, true, true⟩, 2, 2, 53, false, false, none⟩

/-- How the rich shell prints. -/
def rich : Dialect :=
  ⟨⟨true, true, false, false⟩, ⟨true, true, true, true⟩, 1, 2, 64, true, true, none⟩

/-- How the system's own program prints. -/
def program : Dialect :=
  ⟨⟨true, true, true, false⟩, ⟨true, true, true, true⟩, 1, 1, 64, true, false, none⟩

end Dialect

/-- What a backslash followed by `text` stands for, and the text after it; `none` ends all output.
-/
def readBackslash (rule : EscapeRule) (text : Raw) : Option Raw × Raw :=
  match text with
  | [] => (some ['\\'], [])
  | c :: rest =>
    let unknown : Option Raw × Raw := (some ['\\'], c :: rest)
    let character (limit : Nat) : Option Raw × Raw :=
      let (n, after) := takeDigits 16 limit 0 rest
      if !rule.hex || after.length = rest.length then unknown
      else (some (bytesOfNumber n), after)
    match c with
    | 'a' => (some [Char.ofNat 7], rest)
    | 'b' => (some [Char.ofNat 8], rest)
    | 'e' => (some [Char.ofNat 27], rest)
    | 'f' => (some [Char.ofNat 12], rest)
    | 'n' => (some ['\n'], rest)
    | 'r' => (some ['\r'], rest)
    | 't' => (some ['\t'], rest)
    | 'v' => (some [Char.ofNat 11], rest)
    | '\\' => (some ['\\'], rest)
    | '"' => if rule.quotes then (some ['"'], rest) else unknown
    | 'c' => if rule.stops then (none, rest) else unknown
    | 'u' => character 4
    | 'U' => character 8
    | 'x' =>
      let (n, after) := takeDigits 16 2 0 rest
      if !rule.hex || after.length = rest.length then unknown else (some [Char.ofNat n], after)
    | _ =>
      if '0' ≤ c ∧ c ≤ '7' then
        let (n, after) := takeDigits 8 3 0 (if c = '0' ∧ rule.longOctal then rest else c :: rest)
        (some [Char.ofNat (n % 256)], after)
      else unknown

/-- A text with its escapes resolved, in at most `fuel` steps, and whether output goes on after it.
-/
def unescapeWithin (rule : EscapeRule) : Nat → Raw → Raw × Bool
  | 0, _ => ([], true)
  | _, [] => ([], true)
  | fuel + 1, c :: rest =>
    if c = '\\' then
      match readBackslash rule rest with
      | (none, _) => ([], false)
      | (some out, rest) =>
        let (more, goesOn) := unescapeWithin rule fuel rest
        (out ++ more, goesOn)
    else
      let (more, goesOn) := unescapeWithin rule fuel rest
      (c :: more, goesOn)

/-- A text with its escapes resolved, and whether output goes on after it. -/
def unescape (rule : EscapeRule) (text : Raw) : Raw × Bool :=
  unescapeWithin rule (text.length + 1) text

/-- The number that an argument stands for, and whether it is one; a quote in front gives the number
of the next byte. -/
def argumentNumber (text : Raw) : Int × Bool :=
  let bounded (negative : Bool) (text : Raw) : Int × Bool :=
    let (n, rest) := takeNumber text
    let greatest := if negative then maxSigned + 1 else maxSigned
    let inRange := n ≤ greatest
    let n : Nat := min n greatest
    (if negative then -(n : Int) else n,
      inRange && rest.isEmpty && (text.head?.map Text.isDigit).getD false)
  match text.dropWhile isSpace with
  | [] => (0, true)
  | '"' :: c :: _ => (c.toNat, true)
  | '\'' :: c :: _ => (c.toNat, true)
  | '-' :: rest => bounded true rest
  | '+' :: rest => bounded false rest
  | text => bounded false text

/-- The number with a point that an argument stands for, and whether it is one. -/
def argumentReal (precision : Nat) (text : Raw) : Number.Real × Bool :=
  let zero : Number.Real := .finite false ⟨0, 1⟩
  let whole (n : Nat) (rest : Raw) : Number.Real × Bool := (.finite false ⟨n, 1⟩, rest.isEmpty)
  match text.dropWhile isSpace with
  | [] => (zero, true)
  | '"' :: c :: rest => whole c.toNat rest
  | '\'' :: c :: rest => whole c.toNat rest
  | '0' :: 'x' :: digits =>
    let (n, rest) := takeDigits 16 digits.length 0 digits
    whole n rest
  | text =>
    match Number.readReal text with
    | some (.finite negative size, rest) =>
      (.finite negative (size.roundTo precision), rest.isEmpty)
    | some (r, rest) => (r, rest.isEmpty)
    | none => (zero, false)

/-- The flags, width and precision of a directive. -/
structure Directive where
  left : Bool
  zeros : Bool
  plus : Bool
  blank : Bool
  other : Bool
  width : Nat
  precision : Option Nat

namespace Directive

/-- Fill a text up to the width. -/
def fill (l : Directive) (text : Raw) : Raw :=
  let pad := l.width - text.length
  if l.left then text ++ List.replicate pad ' '
  else if l.zeros then
    let sign := text.takeWhile fun c => c = '-' || c = '+' || c = ' '
    let lead := sign ++ if "0x".toList.isPrefixOf (text.drop sign.length) ||
        "0X".toList.isPrefixOf (text.drop sign.length) then
        (text.drop sign.length).take 2 else []
    lead ++ List.replicate pad '0' ++ text.drop lead.length
  else List.replicate pad ' ' ++ text

/-- Digits with at least as many places as the precision says. -/
def places (l : Directive) (digits : Raw) : Raw :=
  if l.precision = some 0 && digits = ['0'] then []
  else List.replicate (l.precision.getD 1 - digits.length) '0' ++ digits

/-- A text with the sign of a number in front. -/
def signed (l : Directive) (negative : Bool) (text : Raw) : Raw :=
  if negative then '-' :: text
  else if l.plus then '+' :: text
  else if l.blank then ' ' :: text
  else text

/-- The text of a number with a point. -/
def real (l : Directive) (kind : Char) (r : Number.Real) : Raw :=
  let cased (text : Raw) : Raw := if kind.isUpper then text.map Char.toUpper else text
  match r with
  | .finite negative size =>
    let text := match kind.toLower with
      | 'f' => Number.fixedText size (l.precision.getD 6) l.other
      | 'e' => Number.exponentialText size (l.precision.getD 6) l.other
      | _ => Number.generalText size (l.precision.getD 6) l.other
    l.fill (cased (l.signed negative text))
  | .infinite negative => { l with zeros := false }.fill (cased (l.signed negative "inf".toList))
  | .undefined => { l with zeros := false }.fill (cased (l.signed false "nan".toList))

/-- The text of a whole number without a sign in a base, with a mark of the base if it is asked for.
-/
def unsigned (l : Directive) (base n : Nat) (upper : Bool) : Raw :=
  let digits := Text.digits base n
  let text := l.places (if upper then digits.map Char.toUpper else digits)
  let text :=
    if !l.other then text
    else if base = 8 then if text.head? = some '0' then text else '0' :: text
    else if base = 16 && n ≠ 0 then '0' :: (if upper then 'X' else 'x') :: text
    else text
  text

end Directive

/-- What one directive prints for an argument: its text, whether the argument was understood, and
whether output goes on after it. -/
structure Filled where
  text : Raw
  understood : Bool := true
  goesOn : Bool := true

/-- What a directive prints for an argument; `none` if there is no directive of this kind. -/
def Directive.write (dialect : Dialect) (l : Directive) (kind : Char) (arg : Option Raw) :
    Option Filled :=
  let text := arg.getD []
  let (n, understood) := argumentNumber text
  let word : Nat := (n % 0x10000000000000000).toNat
  let plain := { l with zeros := false, precision := none }
  let whole := { l with zeros := l.zeros && l.precision.isNone }
  let numeric (text : Raw) : Option Filled := some { text := whole.fill text, understood }
  match kind with
  | 's' =>
    some { text := plain.fill (match l.precision with | some p => text.take p | none => text) }
  | 'b' =>
    let (text, goesOn) := unescape dialect.argument text
    let text := match l.precision with | some p => text.take p | none => text
    some { text := plain.fill text, goesOn }
  | 'q' =>
    if !dialect.quotesWords then none
    else
      let word :=
        if dialect.backslashes then backslashed text
        else if !text.isEmpty && text.all isPlainChar then text
        else if text.any isControl then dollarQuoted text
        else singleQuoted text
      some { text := plain.fill word }
  | 'c' => some { text := plain.fill (if text.isEmpty then [Char.ofNat 0] else text.take 1) }
  | 'd' => numeric (l.signed (n < 0) (l.places (Text.decimal n.natAbs)))
  | 'i' => numeric (l.signed (n < 0) (l.places (Text.decimal n.natAbs)))
  | 'u' => numeric (l.unsigned 10 word false)
  | 'o' => numeric (l.unsigned 8 word false)
  | 'x' => numeric (l.unsigned 16 word false)
  | 'X' => numeric (l.unsigned 16 word true)
  | _ =>
    if ['e', 'E', 'f', 'F', 'g', 'G'].contains kind then
      let (r, understood) := argumentReal dialect.precision text
      some { text := l.real kind r, understood }
    else none

/-- Read the flags of a directive. -/
def readFlags (l : Directive) : Raw → Directive × Raw
  | '-' :: rest => readFlags { l with left := true } rest
  | '0' :: rest => readFlags { l with zeros := true } rest
  | '+' :: rest => readFlags { l with plus := true } rest
  | ' ' :: rest => readFlags { l with blank := true } rest
  | '#' :: rest => readFlags { l with other := true } rest
  | '\'' :: rest => readFlags l rest
  | text => (l, text)

/-- Read a width or a precision, which may be the next argument. -/
def readCount (text : Raw) (args : List Raw) : Int × Raw × List Raw :=
  match text with
  | '*' :: rest => ((argumentNumber (args.headD [])).1, rest, args.drop 1)
  | _ =>
    ((Text.decimalValue (text.takeWhile Text.isDigit) : Nat), text.dropWhile Text.isDigit, args)

/-- Read the flags, width and precision of a directive, and the marks of sizes, which count for
nothing. -/
def readDirective (text : Raw) (args : List Raw) : Directive × Raw × List Raw :=
  let (l, rest) := readFlags ⟨false, false, false, false, false, 0, none⟩ text
  let (width, rest, args) := readCount rest args
  let l := if width < 0 then { l with left := true, width := width.natAbs }
    else { l with width := width.natAbs }
  let sizes (rest : Raw) : Raw := rest.dropWhile fun c => ['h', 'l', 'L', 'j', 'z', 't'].contains c
  match rest with
  | '.' :: rest =>
    let (places, rest, args) := readCount rest args
    ({ l with precision := if places < 0 then none else some places.toNat }, sizes rest, args)
  | _ => (l, sizes rest, args)

/-- The time that an argument means: none, or one of two negative numbers, means now. -/
def timeMeant (now : Int) (arg : Option Raw) : Int :=
  match arg with
  | none => now
  | some text =>
    let n := (argumentNumber text).1
    if n = -1 || n = -2 then now else n

/-- What has been printed so far, backwards; the arguments left; the status; and whether output goes
on. -/
structure Printed where
  output : Raw
  args : List Raw
  status : Nat
  goesOn : Bool

/-- Print by a format once, in at most `fuel` steps. -/
def printOnce (dialect : Dialect) : Nat → Raw → Printed → Printed
  | 0, _, p => p
  | _, [], p => p
  | fuel + 1, '\\' :: rest, p =>
    match readBackslash dialect.format rest with
    | (none, _) => { p with goesOn := false }
    | (some text, rest) =>
      printOnce dialect fuel rest { p with output := text.reverse ++ p.output }
  | fuel + 1, '%' :: '%' :: rest, p =>
    printOnce dialect fuel rest { p with output := '%' :: p.output }
  | fuel + 1, '%' :: rest, p =>
    let (l, rest, args) := readDirective rest p.args
    let (filled, rest) : Option Filled × Raw :=
      match rest, dialect.now with
      | '(' :: inner, some now =>
        let format := inner.takeWhile (· ≠ ')')
        let after := inner.drop (format.length + 1)
        let format := if format.isEmpty then "%X".toList else format
        let moment : Calendar.Moment := ⟨timeMeant now args.head?, 0⟩
        (if after.head? = some 'T' then
            some { text := { l with zeros := false }.fill (moment.shownBy format) }
          else none, after)
      | _, _ => (rest.head?.bind fun kind => l.write dialect kind args.head?, rest)
    match filled with
    | none => { p with status := dialect.badDirective, goesOn := false }
    | some filled =>
      let p : Printed :=
        { output := filled.text.reverse ++ p.output
          args := args.drop 1
          status := if filled.understood then p.status else 1
          goesOn := filled.goesOn }
      if filled.goesOn then printOnce dialect fuel (rest.drop 1) p else p
  | fuel + 1, c :: rest, p => printOnce dialect fuel rest { p with output := c :: p.output }

/-- Print by a format for as long as it takes up arguments, at most `fuel` times. -/
def printAll (dialect : Dialect) (format : Raw) : Nat → Printed → Printed
  | 0, p => p
  | fuel + 1, p =>
    let next := printOnce dialect (format.length + 1) format p
    if next.args.isEmpty || !next.goesOn || next.args.length = p.args.length then next
    else printAll dialect format fuel next

/-- The output of a format and its arguments, and the status. -/
def printf (dialect : Dialect) (format : Raw) (args : List Raw) : Raw × Nat :=
  let p := printAll dialect format (args.length + 1) ⟨[], args, 0, true⟩
  (p.output.reverse, p.status)

/-- The output of the words that follow the name of the command that prints, and the status; a
double dash in front of the format is passed over. -/
def printWords (dialect : Dialect) (words : List Raw) : Raw × Nat :=
  match words with
  | ['-', '-'] :: format :: args => printf dialect format args
  | format :: args => printf dialect format args
  | [] => ([], dialect.noFormat)

end NativeBuild.Shell
