import NativeBuild.Json.Fault

/-!
Reading numbers.  A whole number that fits 64 bits is kept exactly.  Any other number is read as a
binary number: the digits that fit 64 bits are rounded once and then multiplied or divided by a
power of ten, which rounds again.
-/

namespace NativeBuild.Json

open NativeBuild.Number

/-- The greatest unsigned number of 64 bits. -/
def maxWord : Nat := 0xffffffffffffffff

/-- The greatest exponent that may be written. -/
def maxExponent : Nat := 0x7fffffff

/-- The binary number nearest to `10 ^ e`. -/
def powerOfTen (e : Nat) : Ratio :=
  let exact : Ratio := ⟨Nat.pow 10 e, 1⟩
  ((Binary.nearest? false exact).map Binary.ratio).getD exact

/-- Divide by `10 ^ 308` until the exponent is at least `-308`. -/
def settleExponent : Nat → Binary → Nat → Binary × Nat
  | 0, x, e => (x, e)
  | fuel + 1, x, e =>
    if e ≤ 308 ∨ x.mantissa = 0 then (x, e)
    else
      let y := (Binary.nearest? false (x.ratio.div (powerOfTen 308))).getD x
      settleExponent fuel y (e - 308)

/-- The number `significand * 10 ^ e`, or a fault if it is too great. -/
def scaleNumber (negative : Bool) (significand : Nat) (e : Int) : Except Fault Found :=
  let signed (x : Binary) : Except Fault Found := .ok (.floating { x with negative })
  match Binary.nearest? false ⟨significand, 1⟩ with
  | none => .error .malformed
  | some x =>
    match e with
    | .ofNat k =>
      if 308 < k then
        if x.mantissa = 0 then signed x else .error .malformed
      else
        match Binary.nearest? false (x.ratio.mul (powerOfTen k)) with
        | none => .error .malformed
        | some y => signed y
    | .negSucc k =>
      let (x, k) := settleExponent (k / 308 + 1) x (k + 1)
      if x.mantissa = 0 then signed x
      else
        match Binary.nearest? false (x.ratio.div (powerOfTen k)) with
        | none => .error .malformed
        | some y => signed y

/-- Read an exponent after its mark. -/
def readExponent (negative : Bool) (significand : Nat) (e : Int) (s : List Char) :
    Except Fault (Found × List Char) := do
  let (down, s) :=
    match s with
    | '+' :: rest => (false, rest)
    | '-' :: rest => (true, rest)
    | _ => (false, s)
  match s with
  | [] => .error .truncated
  | c :: _ =>
    if !Text.isDigit c then .error .malformed
    else
      let shown := s.takeWhile Text.isDigit
      let rest := s.dropWhile Text.isDigit
      let n := Text.decimalValue shown
      if maxExponent < n then
        if significand ≠ 0 ∧ !down then .error .malformed
        else .ok (.floating ⟨negative, 0, lowestExponent⟩, rest)
      else
        let value ← scaleNumber negative significand (if down then e - n else e + n)
        .ok (value, rest)

/-- Take the digits that keep the significand within 64 bits: the significand, how many were taken,
and what is left. -/
def takeDigits (significand count : Nat) : List Char → Nat × Nat × List Char
  | [] => (significand, count, [])
  | c :: rest =>
    if Text.isDigit c ∧ significand * 10 + Text.digitValue c ≤ maxWord then
      takeDigits (significand * 10 + Text.digitValue c) (count + 1) rest
    else (significand, count, c :: rest)

/-- Read what may follow the digits of a binary number: an exponent or nothing. -/
def readTail (negative : Bool) (significand : Nat) (e : Int) (s : List Char) :
    Except Fault (Found × List Char) :=
  match s with
  | 'e' :: rest => readExponent negative significand e rest
  | 'E' :: rest => readExponent negative significand e rest
  | _ => do
    let value ← scaleNumber negative significand e
    .ok (value, s)

/-- Read the places after a point, of which there must be one. -/
def readPlaces (negative : Bool) (significand : Nat) (e : Int) (s : List Char) :
    Except Fault (Found × List Char) :=
  match s with
  | [] => .error .truncated
  | c :: _ =>
    if !Text.isDigit c then .error .malformed
    else
      let (significand, count, rest) := takeDigits significand 0 s
      readTail negative significand (e - count) (rest.dropWhile Text.isDigit)

/-- A whole number that fits; a negative one below the 64-bit integers becomes a binary number, and
so does minus zero. -/
def wholeNumber (negative : Bool) (n : Nat) : Except Fault Found :=
  if !negative then .ok (.integer n)
  else if n = 0 ∨ 0x8000000000000000 < n then scaleNumber true n 0
  else .ok (.integer (-n))

/-- Read what follows the whole part of a number. -/
def readFraction (negative : Bool) (significand skipped : Nat) (s : List Char) :
    Except Fault (Found × List Char) :=
  match s with
  | '.' :: rest => readPlaces negative significand skipped rest
  | _ => readTail negative significand skipped s

/-- Read a number after its sign. -/
def readUnsigned (negative : Bool) (s : List Char) : Except Fault (Found × List Char) :=
  match s with
  | [] => .error .truncated
  | c :: rest =>
    if !Text.isDigit c then .error .malformed
    else if c = '0' ∧ (rest.head?.map Text.isDigit).getD false then .error .malformed
    else
      let (n, _, rest) := takeDigits 0 0 s
      let further := rest.takeWhile Text.isDigit
      let rest := rest.dropWhile Text.isDigit
      let plain := match rest with
        | '.' :: _ => false
        | 'e' :: _ => false
        | 'E' :: _ => false
        | _ => further.isEmpty
      if plain then (wholeNumber negative n).map (·, rest)
      else readFraction negative n further.length rest

/-- Read a number. -/
def readNumber (s : List Char) : Except Fault (Found × List Char) :=
  match s with
  | '-' :: rest => readUnsigned true rest
  | _ => readUnsigned false s

end NativeBuild.Json
