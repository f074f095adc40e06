/-!
Binary numbers of 64 bits as exact values: a sign, a whole number below `2 ^ 53` and a power of two.
Every operation takes the exact result and rounds it once, a half to the even neighbour.
-/

namespace NativeBuild.Number

/-- The value `mantissa * 2 ^ exponent`, negated if `negative`. -/
structure Binary where
  negative : Bool
  mantissa : Nat
  exponent : Int
  deriving DecidableEq

/-- The exponents of the smallest and of the greatest positive number. -/
def lowestExponent : Int := -1074

@[inherit_doc lowestExponent] def highestExponent : Int := 971

/-- The least mantissa of 53 binary digits, `2 ^ 52`. -/
def normalMantissa : Nat := 0x10000000000000

/-- A non-negative fraction: a numerator over a denominator that is not zero. -/
structure Ratio where
  top : Nat
  bottom : Nat

namespace Ratio

/-- `n * 2 ^ e`. -/
def scaled (n : Nat) (e : Int) : Ratio :=
  match e with
  | .ofNat k => ⟨n * Nat.pow 2 k, 1⟩
  | .negSucc k => ⟨n, Nat.pow 2 (k + 1)⟩

/-- The sum of two fractions. -/
def add (a b : Ratio) : Ratio :=
  ⟨a.top * b.bottom + b.top * a.bottom, a.bottom * b.bottom⟩

/-- The product of two fractions. -/
def mul (a b : Ratio) : Ratio :=
  ⟨a.top * b.top, a.bottom * b.bottom⟩

/-- The quotient of two fractions. -/
def div (a b : Ratio) : Ratio :=
  ⟨a.top * b.bottom, a.bottom * b.top⟩

end Ratio

/-- The quotient of two naturals rounded to the nearest whole number, a half to the even one. -/
def roundQuotient (top bottom : Nat) : Nat :=
  let q := top / bottom
  let twice := 2 * (top % bottom)
  if twice < bottom then q
  else if bottom < twice then q + 1
  else q + q % 2

/-- A fraction as a whole multiple of `2 ^ e`, rounded. -/
def Ratio.roundAt (r : Ratio) (e : Int) : Nat :=
  match e with
  | .ofNat k => roundQuotient r.top (r.bottom * Nat.pow 2 k)
  | .negSucc k => roundQuotient (r.top * Nat.pow 2 (k + 1)) r.bottom

/-- Whether a fraction is at least `2 ^ (52 + e)`. -/
def Ratio.fills (r : Ratio) (e : Int) : Bool :=
  match e with
  | .ofNat k => r.bottom * Nat.pow 2 (52 + k) ≤ r.top
  | .negSucc k => r.bottom * normalMantissa ≤ r.top * Nat.pow 2 (k + 1)

/-- The exponent at which the whole part of a positive fraction has 53 binary digits, or the lowest
one if that is greater. -/
def Ratio.exponent (r : Ratio) : Int :=
  let e := (r.top.log2 : Int) - r.bottom.log2 - 52
  max lowestExponent (if r.fills e then e else e - 1)

namespace Binary

/-- The number nearest to a fraction, or `none` beyond the greatest. -/
def nearest? (negative : Bool) (r : Ratio) : Option Binary :=
  if r.top = 0 then some ⟨negative, 0, lowestExponent⟩
  else
    let e := r.exponent
    let m := r.roundAt e
    let (m, e) := if m = 2 * normalMantissa then (normalMantissa, e + 1) else (m, e)
    if highestExponent < e then none else some ⟨negative, m, e⟩

/-- The absolute value of a number as a fraction. -/
def ratio (b : Binary) : Ratio :=
  Ratio.scaled b.mantissa b.exponent

end Binary

end NativeBuild.Number
