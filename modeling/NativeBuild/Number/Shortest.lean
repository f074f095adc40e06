import NativeBuild.Number.Binary64
import NativeBuild.Text.Decimal

/-!
The shortest decimal that reads back as a given binary number, and its text.
-/

namespace NativeBuild.Number

/-- A decimal `digits * 10 ^ exponent`. -/
structure Decimal where
  digits : Nat
  exponent : Int
  deriving DecidableEq

/-- The reals that round to a binary number, scaled by four times a common denominator: the number,
the two ends, and whether the ends belong to them. -/
structure Rounding where
  value : Nat
  low : Nat
  high : Nat
  bottom : Nat
  closed : Bool

/-- The reals that round to `mantissa * 2 ^ exponent`.  Below a power of two the numbers lie twice
as dense. -/
def Rounding.of (b : Binary) : Rounding :=
  let unit := Ratio.scaled 1 b.exponent
  let below := if b.mantissa = normalMantissa ∧ lowestExponent < b.exponent then 1 else 2
  { value := 4 * b.mantissa * unit.top
    low := (4 * b.mantissa - below) * unit.top
    high := (4 * b.mantissa + 2) * unit.top
    bottom := 4 * unit.bottom
    closed := b.mantissa % 2 == 0 }

/-- The greatest power of ten that is at most `top / bottom`, by its exponent. -/
def decade (top bottom : Nat) : Int :=
  if bottom ≤ top then ((Text.decimal (top / bottom)).length : Int) - 1
  else -((Text.decimal ((bottom + top - 1) / top - 1)).length : Int)

/-- Whether `n * 10 ^ e` rounds to the number. -/
def Rounding.holds (r : Rounding) (n : Nat) (e : Int) : Bool :=
  let (top, bottom) :=
    match e with
    | .ofNat k => (n * Nat.pow 10 k * r.bottom, 1)
    | .negSucc k => (n * r.bottom, Nat.pow 10 (k + 1))
  if r.closed then r.low * bottom ≤ top && top ≤ r.high * bottom
  else r.low * bottom < top && top < r.high * bottom

/-- The two neighbours of the number on the grid of multiples of `10 ^ e`: the one at or below it,
and whether the one above is to be preferred: it is nearer, or as near and even. -/
def Rounding.neighbours (r : Rounding) (e : Int) : Nat × Bool :=
  let (top, bottom) :=
    match e with
    | .ofNat k => (r.value, r.bottom * Nat.pow 10 k)
    | .negSucc k => (r.value * Nat.pow 10 (k + 1), r.bottom)
  let floor := top / bottom
  let twice := 2 * (top % bottom)
  (floor, bottom < twice || (bottom == twice && floor % 2 == 1))

/-- A decimal without the zeros at its end. -/
def Decimal.stripped (fuel : Nat) (d : Decimal) : Decimal :=
  match fuel with
  | 0 => d
  | fuel + 1 =>
    if d.digits % 10 = 0 ∧ d.digits ≠ 0 then stripped fuel ⟨d.digits / 10, d.exponent + 1⟩ else d

/-- Try grids of `count` digits and more. -/
def Rounding.search (r : Rounding) (top : Int) (count : Nat) : Nat → Decimal
  | 0 => ⟨(r.neighbours (top - count)).1, top - count⟩
  | more + 1 =>
    let e := top - count
    let (floor, above) := r.neighbours e
    let lowFits := r.holds floor e
    let highFits := r.holds (floor + 1) e
    if lowFits && !(highFits && above) then ⟨floor, e⟩
    else if highFits then ⟨floor + 1, e⟩
    else search r top (count + 1) more

/-- The decimal of fewest digits that rounds to a positive number, the nearest of those. -/
def shortest (b : Binary) : Decimal :=
  let r := Rounding.of b
  ((r.search (decade r.value r.bottom) 0 17)).stripped 20

/-- The scientific exponents that are written out in place, without an exponent. -/
def isPositional (e : Int) : Bool :=
  -5 ≤ e && e ≤ 15

/-- The text of a finite number: its shortest digits, a point in every number written in place, and
a signed exponent in every other. -/
def floatText (b : Binary) : List Char :=
  let sign := if b.negative then ['-'] else []
  if b.mantissa = 0 then sign ++ "0.0".toList
  else
    let d := shortest b
    let ds := Text.decimal d.digits
    let e := d.exponent + (ds.length - 1 : Nat)
    if isPositional e then
      if d.exponent ≥ 0 then sign ++ ds ++ List.replicate d.exponent.toNat '0' ++ ".0".toList
      else
        let places := (-d.exponent).toNat
        if ds.length > places then
          sign ++ ds.take (ds.length - places) ++ '.' :: ds.drop (ds.length - places)
        else sign ++ "0.".toList ++ List.replicate (places - ds.length) '0' ++ ds
    else
      let fraction := match ds.drop 1 with
        | [] => []
        | more => '.' :: more
      let mark := if e < 0 then "e-".toList else "e+".toList
      sign ++ ds.take 1 ++ fraction ++ mark ++ Text.decimal e.natAbs

end NativeBuild.Number
