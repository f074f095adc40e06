/-!
Digits: natural numbers in base ten and sixteen, written and read.
-/

namespace NativeBuild.Text

/-- Whether a character is one of the ten ASCII digits. -/
def isDigit (c : Char) : Bool :=
  '0' ≤ c && c ≤ '9'

/-- The value of an ASCII digit. -/
def digitValue (c : Char) : Nat :=
  c.toNat - '0'.toNat

/-- The digit for a value below sixteen, in lower case. -/
def hexDigit (n : Nat) : Char :=
  if n < 10 then Char.ofNat ('0'.toNat + n) else Char.ofNat ('a'.toNat + n - 10)

/-- The value of a hexadecimal digit of either case. -/
def hexValue? (c : Char) : Option Nat :=
  if isDigit c then some (digitValue c)
  else if 'a' ≤ c ∧ c ≤ 'f' then some (c.toNat - 'a'.toNat + 10)
  else if 'A' ≤ c ∧ c ≤ 'F' then some (c.toNat - 'A'.toNat + 10)
  else none

/-- The digits of `n` in `base`, with at least one. -/
def digits (base n : Nat) : List Char :=
  Nat.toDigits base n

/-- A natural number in base ten. -/
def decimal (n : Nat) : List Char :=
  digits 10 n

/-- An integer in base ten, with a sign when it is negative. -/
def signedDecimal : Int → List Char
  | .ofNat n => decimal n
  | .negSucc n => '-' :: decimal (n + 1)

/-- The number that a run of decimal digits stands for. -/
def decimalValue (text : List Char) : Nat :=
  text.foldl (fun n c => n * 10 + digitValue c) 0

/-- Read a number made of one or more decimal digits and nothing else. -/
def decimal? (text : List Char) : Option Nat :=
  if text.isEmpty then none
  else if text.all isDigit then some (decimalValue text)
  else none

/-- Read an unsigned 64-bit number: an optional plus sign and decimal digits. -/
def unsigned64? (text : List Char) : Option Nat :=
  let number :=
    match text with
    | '+' :: rest => decimal? rest
    | _ => decimal? text
  number.filter (· ≤ 0xffffffffffffffff)

end NativeBuild.Text
