import NativeBuild.Userland.Shell.Printf
import NativeBuild.Userland.Regex.Match
import NativeBuild.Userland.Regex.Parse

/-!
Values that are numbers and texts at once.
-/

namespace NativeBuild.Tool.Awk

open Shell (Raw isSpace Directive)
open Text (Regex)
open Number (Ratio)

/-- A value: nothing yet, a number, a text, or a text from the input, which counts as a number if it
looks like one. -/
inductive Value where
  | unset
  | number (n : Float)
  | text (t : Raw)
  | input (t : Raw)

/-! ### Numbers as texts -/

/-- A fraction as a number of 64 bits. -/
def floatOf (negative : Bool) (r : Ratio) : Float :=
  let r := r.roundTo 53
  let size := (Float.ofNat r.top).scaleB (-(r.bottom.log2 : Int))
  if negative then -size else size

/-- A number of 64 bits as a fraction with a sign. -/
def realOf (n : Float) : Number.Real :=
  if n.isNaN then .undefined
  else if n.isInf then .infinite (n < 0)
  else
    let bits := n.toBits.toNat
    let negative := 0x8000000000000000 ≤ bits
    let bits := bits % 0x8000000000000000
    let exponent := bits / 0x10000000000000
    let part := bits % 0x10000000000000
    if exponent = 0 then .finite negative (Ratio.scaled part (-1074))
    else .finite negative (Ratio.scaled (part + 0x10000000000000) ((exponent : Int) - 1075))

/-- The number at the start of a text, and what follows it. -/
def readNumber (text : Raw) : Option (Float × Raw) :=
  match text.head? with
  | some c =>
    if c.isAlpha then none
    else
      match Number.readReal text with
      | some (.finite negative size, rest) => some (floatOf negative size, rest)
      | some (.infinite negative, rest) =>
        if (text.takeWhile fun c => c = '-' || c = '+').length < text.length - rest.length &&
            text.any Text.isDigit then
          some (if negative then -1.0 / 0.0 else 1.0 / 0.0, rest)
        else none
      | _ => none
  | none => none

/-- The number that a text starts with; zero if there is none. -/
def numberAtStart (text : Raw) : Float :=
  ((readNumber (text.dropWhile isSpace)).map Prod.fst).getD 0

/-- The number that a text is, with nothing but blanks around it. -/
def wholeNumber? (text : Raw) : Option Float :=
  match readNumber (text.dropWhile isSpace) with
  | some (n, rest) => if rest.all isSpace then some n else none
  | none => none

/-- The whole number in front of the point. -/
def wholePart (n : Float) : Int :=
  match realOf n with
  | .finite negative r =>
    if negative then -((r.top / r.bottom : Nat) : Int) else (r.top / r.bottom : Nat)
  | .infinite negative => if negative then -0x8000000000000000 else 0x7fffffffffffffff
  | .undefined => -0x8000000000000000

/-- A whole number as a number of 64 bits. -/
def ofWhole (n : Int) : Float :=
  if n < 0 then -(Float.ofNat n.natAbs) else Float.ofNat n.natAbs

namespace Value

/-- The value as a number. -/
def toNumber : Value → Float
  | unset => 0
  | number n => n
  | text t => numberAtStart t
  | input t => numberAtStart t

/-- Whether the value is taken as a number where it is compared. -/
def isNumeric : Value → Bool
  | unset => true
  | number _ => true
  | text _ => false
  | input t => (wholeNumber? t).isSome

/-- Whether the value counts as true. -/
def isTrue : Value → Bool
  | unset => false
  | number n => n != 0
  | text t => !t.isEmpty
  | input t =>
    match wholeNumber? t with
    | some n => n != 0
    | none => !t.isEmpty

end Value

/-- The value of a condition. -/
def truth (b : Bool) : Value :=
  .number (if b then 1 else 0)

/-! ### Formats -/

/-- What a directive of a format prints for a value; the value as a text is `shown`. -/
def directiveText (l : Directive) (kind : Char) (v : Value) (shown : Raw) : Raw :=
  let plain := { l with zeros := false, precision := none }
  let whole := { l with zeros := l.zeros && l.precision.isNone }
  let n := wholePart v.toNumber
  let beyond : Option Raw := match realOf v.toNumber with
    | .finite _ _ => none
    | r => some ({ l with precision := none }.real 'f' r)
  match kind with
  | 's' => plain.fill (match l.precision with | some p => shown.take p | none => shown)
  | 'c' =>
    let one : Raw :=
      match v with
      | .number m => [Char.ofNat ((wholePart m) % 256).toNat]
      | .unset => [Char.ofNat 0]
      | .text t => t.take 1
      | .input t =>
        match wholeNumber? t with
        | some m => [Char.ofNat ((wholePart m) % 256).toNat]
        | none => t.take 1
    plain.fill one
  | _ =>
    if kind = 'd' ∨ kind = 'i' then
      beyond.getD (whole.fill (l.signed (n < 0) (l.places (Text.decimal n.natAbs))))
    else if ['e', 'E', 'f', 'F', 'g', 'G'].contains kind then l.real kind (realOf v.toNumber)
    else
      let word : Nat := (n % 0x10000000000000000).toNat
      let base := if kind = 'o' then 8 else if kind = 'u' then 10 else 16
      beyond.getD (whole.fill (l.unsigned base word (kind = 'X')))

/-- A number as a text: a whole one with all its digits, others by a format. -/
def numberText (format : Raw) (n : Float) : Raw :=
  let isWhole := n.floor == n && n.abs < 9223372036854775808
  if isWhole then Text.signedDecimal (wholePart n)
  else
    match realOf n with
    | .finite _ _ =>
      let lead := format.takeWhile (· ≠ '%')
      let (l, rest, _) := Shell.readDirective ((format.drop lead.length).drop 1) []
      match rest with
      | kind :: after => lead ++ directiveText l kind (.number n) [] ++ after
      | [] => lead
    | .infinite negative => if negative then "-inf".toList else "inf".toList
    | .undefined =>
      if 0x8000000000000000 ≤ n.toBits.toNat then "-nan".toList else "nan".toList

/-- A value as a text, numbers by a format. -/
def Value.toText (format : Raw) : Value → Raw
  | unset => []
  | number n => numberText format n
  | text t => t
  | input t => t

/-- A text filled in by a format, up to a directive that is not known or lacks its value, and
whether there is none; in at most `fuel` steps. -/
def formatText (conversion : Raw) : Nat → Raw → List Value → Raw × Bool
  | 0, _, _ => ([], false)
  | _, [], _ => ([], true)
  | fuel + 1, '%' :: '%' :: rest, args =>
    let (text, isWhole) := formatText conversion fuel rest args
    ('%' :: text, isWhole)
  | fuel + 1, '%' :: rest, args =>
    let texts := args.map (Value.toText conversion)
    let (l, after, left) := Shell.readDirective rest texts
    match after, args.drop (texts.length - left.length) with
    | kind :: after, v :: args =>
      if "diouxXeEfFgGcs".toList.contains kind then
        let (text, isWhole) := formatText conversion fuel after args
        (directiveText l kind v (v.toText conversion) ++ text, isWhole)
      else ([], false)
    | _, _ => ([], false)
  | fuel + 1, c :: rest, args =>
    let (text, isWhole) := formatText conversion fuel rest args
    (c :: text, isWhole)

/-! ### Regular expressions -/

/-- A regular expression with the escapes resolved that only texts know. -/
def plainRegex : Raw → Raw
  | '\\' :: '/' :: rest => '/' :: plainRegex rest
  | '\\' :: '"' :: rest => '"' :: plainRegex rest
  | '\\' :: 'n' :: rest => '\n' :: plainRegex rest
  | '\\' :: 't' :: rest => '\t' :: plainRegex rest
  | '\\' :: 'r' :: rest => '\r' :: plainRegex rest
  | '\\' :: '&' :: rest => '&' :: plainRegex rest
  | '\\' :: c :: rest =>
    if c.isAlphanum then c :: plainRegex rest else '\\' :: c :: plainRegex rest
  | c :: rest => c :: plainRegex rest
  | [] => []

/-- Read a regular expression; one that is badly formed matches nothing but itself. -/
def regexOf (text : Raw) : Regex :=
  (Regex.parse? .extended (plainRegex text)).getD (Regex.literal text)

end NativeBuild.Tool.Awk
