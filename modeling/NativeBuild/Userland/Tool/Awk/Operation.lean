import NativeBuild.Userland.Tool.Awk.State

/-!
What is done with values: numbers are combined and compared, parts of texts are taken and replaced,
and the keys of arrays are put in order.
-/

namespace NativeBuild.Tool.Awk

open Shell (Raw)
open Text (Regex Subject)

/-- What an operation makes of two numbers. -/
def Arithmetic.apply (op : Arithmetic) (a b : Float) : Float :=
  match op with
  | .add => a + b
  | .sub => a - b
  | .mul => a * b
  | .div => a / b
  | .mod =>
    if b == 0 || a.isInf || a.isNaN then 0.0 / 0.0
    else if b.isInf then a
    else
      match realOf a, realOf b with
      | .finite negative x, .finite _ y =>
        let top := x.top * y.bottom % (y.top * x.bottom)
        floatOf negative ⟨top, x.bottom * y.bottom⟩
      | _, _ => a
  | .pow => Float.pow a b

/-- Whether two values compare in a way: as numbers if both are, or else as texts. -/
def Comparison.holds (op : Comparison) (conversion : Raw) (a b : Value) : Bool :=
  if a.isNumeric && b.isNumeric then
    let x := a.toNumber
    let y := b.toNumber
    match op with
    | .less => x < y
    | .atMost => x ≤ y
    | .same => x == y
    | .different => x != y
    | .atLeast => y ≤ x
    | .more => y < x
  else
    let x := a.toText conversion
    let y := b.toText conversion
    match op with
    | .less => !Shell.inOrder y x
    | .atMost => Shell.inOrder x y
    | .same => x = y
    | .different => x ≠ y
    | .atLeast => Shell.inOrder y x
    | .more => !Shell.inOrder x y

/-- The part of a text from a place on, counted from one. -/
def partOf (text : Raw) (start : Int) (count : Option Int) : Raw :=
  let count := count.map fun n => if start < 1 then n - start else n
  let rest := text.drop (start - 1).toNat
  match count with
  | some n => rest.take n.toNat
  | none => rest

/-- A replacement for a matched text: an unprotected ampersand stands for it. -/
def replacementFor (matched : Raw) : Raw → Raw
  | '\\' :: '\\' :: '&' :: rest => '\\' :: matched ++ replacementFor matched rest
  | '\\' :: '&' :: rest => '&' :: replacementFor matched rest
  | '&' :: rest => matched ++ replacementFor matched rest
  | c :: rest => c :: replacementFor matched rest
  | [] => []

/-- Replace the first match in a text, or all: the text, and how many were replaced. -/
def replaceMatches (r : Regex) (word text : Raw) (all : Bool) : Raw × Nat :=
  let t : Subject := ⟨text.toArray, false⟩
  let found := if all then r.all t else (r.search t 0).toList
  let (start, parts) := found.foldl
    (fun (start, parts) m =>
      (m.stop, replacementFor (t.slice m.start m.stop) word :: t.slice start m.start :: parts))
    (0, [])
  ((t.slice start text.length :: parts).reverse.flatten, found.length)

/-- The place of a key among those of an array of a number of items. -/
def keyPlace (count : Nat) (key : Raw) : Nat :=
  let hash := key.foldl (fun h c => (h ^^^ c.toNat) * 16777619 % 0x100000000) 2166136261
  let size := (List.range 40).foldl (fun size _ => if 2 * size < count then 2 * size else size) 64
  hash % size

/-- The keys of an array in the order in which they are gone through. -/
def keysInOrder (items : List (Raw × Value)) : List Raw :=
  let placed := items.map fun item => (keyPlace items.length item.1, item.1)
  (placed.mergeSort fun a b => a.1 ≤ b.1).map Prod.snd

/-- The value of a function of numbers. -/
def numberFunction? (name : String) (xs : List Float) : Option Float :=
  match name, xs with
  | "sin", [x] => some x.sin
  | "cos", [x] => some x.cos
  | "atan2", [y, x] => some (Float.atan2 y x)
  | "exp", [x] => some x.exp
  | "log", [x] => some x.log
  | "sqrt", [x] => some x.sqrt
  | "int", [x] => some (if x < 0 then x.ceil else x.floor)
  | _, _ => none

end NativeBuild.Tool.Awk
