import NativeBuild.Number.Binary64
import NativeBuild.Text.Decimal

/-!
Fractions in base ten with a given number of digits: read, rounded to a number of binary digits, and
written with a point or with an exponent.
-/

namespace NativeBuild.Number

/-- A number that is written with a point: a fraction with a sign, or one that is beyond all others,
or none at all. -/
inductive Real where
  | finite (negative : Bool) (size : Ratio)
  | infinite (negative : Bool)
  | undefined

namespace Ratio

/-- Whether a fraction is at least `10 ^ k`. -/
def reaches (r : Ratio) (k : Int) : Bool :=
  match k with
  | .ofNat k => r.bottom * Nat.pow 10 k ≤ r.top
  | .negSucc k => r.bottom ≤ r.top * Nat.pow 10 (k + 1)

/-- A fraction as a whole multiple of `10 ^ k`, rounded. -/
def roundAtTen (r : Ratio) (k : Int) : Nat :=
  match k with
  | .ofNat k => roundQuotient r.top (r.bottom * Nat.pow 10 k)
  | .negSucc k => roundQuotient (r.top * Nat.pow 10 (k + 1)) r.bottom

/-- The exponent of ten of the first digit of a positive fraction. -/
def tenExponent (r : Ratio) : Int :=
  let guess : Int := (Nat.toDigits 10 r.top).length - (Nat.toDigits 10 r.bottom).length
  if r.reaches guess then guess else guess - 1

/-- A fraction rounded to a number of binary digits. -/
def roundTo (digits : Nat) (r : Ratio) : Ratio :=
  if r.top = 0 then r
  else
    let e : Int := (r.top.log2 : Int) - r.bottom.log2 - (digits - 1 : Nat)
    let fills : Bool := match e with
      | .ofNat k => r.bottom * Nat.pow 2 (digits - 1 + k) ≤ r.top
      | .negSucc k => r.bottom * Nat.pow 2 (digits - 1) ≤ r.top * Nat.pow 2 (k + 1)
    let e := if fills then e else e - 1
    scaled (r.roundAt e) e

end Ratio

/-- The digits of a number that is a whole multiple of `10 ^ -places`, with a point in front of the
last places. -/
def withPoint (n places : Nat) (keepsPoint : Bool) : List Char :=
  let digits := Text.decimal n
  let digits := List.replicate (places + 1 - digits.length) '0' ++ digits
  let whole := digits.take (digits.length - places)
  let part := digits.drop (digits.length - places)
  if part.isEmpty then if keepsPoint then whole ++ ['.'] else whole
  else whole ++ '.' :: part

/-- A fraction with a given number of places behind the point. -/
def fixedText (r : Ratio) (places : Nat) (keepsPoint : Bool) : List Char :=
  withPoint (r.roundAtTen (-(places : Int))) places keepsPoint

/-- The digits of a fraction, one more than `places`, as a whole number, and the exponent of ten of
the first one. -/
def scientific (r : Ratio) (places : Nat) : Nat × Int :=
  if r.top = 0 then (0, 0)
  else
    let e := r.tenExponent
    let n := r.roundAtTen (e - places)
    if n = Nat.pow 10 (places + 1) then (Nat.pow 10 places, e + 1) else (n, e)

/-- An exponent as it is written: its sign and at least two digits. -/
def exponentText (e : Int) : List Char :=
  let digits := Text.decimal e.natAbs
  (if e < 0 then '-' else '+') :: (List.replicate (2 - digits.length) '0' ++ digits)

/-- A fraction with one digit in front of the point and an exponent. -/
def exponentialText (r : Ratio) (places : Nat) (keepsPoint : Bool) : List Char :=
  let (n, e) := scientific r places
  withPoint n places keepsPoint ++ 'e' :: exponentText e

/-- A text without the zeros at the end of its places. -/
def withoutZeros (text : List Char) : List Char :=
  if text.contains '.' then
    let short := text.reverse.dropWhile (· = '0')
    (if short.head? = some '.' then short.drop 1 else short).reverse
  else text

/-- A fraction with a given number of digits, with an exponent if it is too small or too great to be
written without one. -/
def generalText (r : Ratio) (digits : Nat) (keepsZeros : Bool) : List Char :=
  let digits := max digits 1
  let (n, e) := scientific r (digits - 1)
  let trim (text : List Char) : List Char := if keepsZeros then text else withoutZeros text
  if -4 ≤ e ∧ e < digits then
    trim (fixedText r (digits - 1 - e).toNat keepsZeros)
  else trim (withPoint n (digits - 1) keepsZeros) ++ 'e' :: exponentText e

/-- The exponent of ten beyond which numbers count as infinite. -/
def greatestTen : Nat := 5000

/-- The number in front of a text, if there is one, and what follows it: a sign, digits with a
point, an exponent; or a word for a number beyond all others, or for none. -/
def readReal (text : List Char) : Option (Real × List Char) :=
  let (negative, body) := match text with
    | '-' :: rest => (true, rest)
    | '+' :: rest => (false, rest)
    | _ => (false, text)
  let word (name : String) : Bool := name.toList.isPrefixOf (body.map Char.toLower)
  let whole := body.takeWhile Text.isDigit
  let rest := body.drop whole.length
  let part : List Char := match rest with
    | '.' :: rest => rest.takeWhile Text.isDigit
    | _ => []
  let rest : List Char := match rest with
    | '.' :: after => if whole.isEmpty && part.isEmpty then rest else after.drop part.length
    | _ => rest
  if word "infinity" then some (.infinite negative, body.drop 8)
  else if word "inf" then some (.infinite negative, body.drop 3)
  else if word "nan" then some (.undefined, body.drop 3)
  else if whole.isEmpty && part.isEmpty then none
  else
    let (exponent, rest) : Int × List Char :=
      match rest with
      | e :: after =>
        if e = 'e' ∨ e = 'E' then
          let (sign, digits) : Int × List Char := match after with
            | '-' :: digits => (-1, digits)
            | '+' :: digits => (1, digits)
            | _ => (1, after)
          let n := digits.takeWhile Text.isDigit
          if n.isEmpty then (0, rest)
          else (sign * min (Text.decimalValue n) 1000000, digits.drop n.length)
        else (0, rest)
      | [] => (0, rest)
    let n := Text.decimalValue (whole ++ part)
    let exponent := exponent - part.length
    let size : Ratio :=
      if n = 0 then ⟨0, 1⟩
      else
        match exponent with
        | .ofNat k => ⟨n * Nat.pow 10 (min k (2 * greatestTen)), 1⟩
        | .negSucc k => ⟨n, Nat.pow 10 (min (k + 1) (2 * greatestTen))⟩
    if size.reaches greatestTen then some (.infinite negative, rest)
    else some (.finite negative size, rest)

end NativeBuild.Number
