import NativeBuild.Userland.Shell.Quote

/-!
Words with braces that stand for several words: a list of texts, or all numbers or letters from one
to another.
-/

namespace NativeBuild.Shell

/-- A character of a word that is not protected, or a part of it that braces leave alone. -/
inductive Atom where
  | char (c : Char)
  | piece (p : Piece)

namespace Atom

/-- A word as the atoms that it is made of. -/
def ofWord (w : Word) : List Atom :=
  w.flatMap fun
    | .plain text => text.map Atom.char
    | p => [Atom.piece p]

/-- The word that is made of atoms. -/
def toWord (atoms : List Atom) : Word :=
  atoms.foldr
    (fun atom w => match atom, w with
      | .char c, .plain text :: rest => .plain (c :: text) :: rest
      | .char c, w => .plain [c] :: w
      | .piece p, w => p :: w) []

/-- Whether an atom is a given character. -/
def isChar (atom : Atom) (c : Char) : Bool :=
  match atom with
  | .char d => c = d
  | .piece _ => false

/-- The text of atoms that are all characters. -/
def text? (atoms : List Atom) : Option Raw :=
  atoms.mapM fun
    | .char c => some c
    | .piece _ => none

end Atom

/-- The parts between the commas of a list in braces, up to the brace that closes it, and what
follows. -/
def braceParts : Nat → List Atom → Option (List (List Atom) × List Atom)
  | _, [] => none
  | depth, a :: rest =>
    if a.isChar '\x7d' && depth = 0 then some ([[]], rest)
    else
      let deeper := if a.isChar '\x7b' then depth + 1 else if a.isChar '\x7d' then depth - 1
        else depth
      match braceParts deeper rest with
      | some (first :: more, rest) =>
        if a.isChar ',' && depth = 0 then some ([] :: first :: more, rest)
        else some ((a :: first) :: more, rest)
      | _ => none

/-- The whole numbers from one to another in steps. -/
def stepsBetween (a b : Int) (step : Nat) : List Int :=
  let count := (b - a).natAbs / step + 1
  (List.range (min count 100000)).map fun k =>
    if a ≤ b then a + (k * step : Nat) else a - (k * step : Nat)

/-- Whether the text of a number asks for leading zeros. -/
def isPadded (text : Raw) : Bool :=
  let digits := if text.head? = some '-' then text.drop 1 else text
  digits.head? = some '0' && digits.length > 1

/-- The texts that a range of numbers or letters stands for. -/
def rangeTexts? (text : Raw) : Option (List Raw) :=
  let dots (text : Raw) : Option (Raw × Raw) :=
    match (List.range text.length).find? fun n => "..".toList.isPrefixOf (text.drop n) with
    | some n => some (text.take n, text.drop (n + 2))
    | none => none
  match dots text with
  | none => none
  | some (a, rest) =>
    let (b, step) := match dots rest with
      | some (b, step) => (b, some step)
      | none => (rest, none)
    let step? : Option Nat := match step with
      | none => some 1
      | some text => (integer? text).map fun n => max 1 n.natAbs
    match step?, integer? a, integer? b with
    | some step, some m, some n =>
      let width := if isPadded a || isPadded b then max a.length b.length else 0
      some ((stepsBetween m n step).map fun n =>
        let digits := Text.decimal n.natAbs
        let sign : Raw := if n < 0 then ['-'] else []
        sign ++ List.replicate (width - digits.length - sign.length) '0' ++ digits)
    | some step, _, _ =>
      match a, b with
      | [c], [d] =>
        if c.isAlpha && d.isAlpha then
          some ((stepsBetween c.toNat d.toNat step).map fun n => [Char.ofNat n.toNat])
        else none
      | _, _ => none
    | none, _, _ => none

/-- The words that atoms stand for, in at most `fuel` steps. -/
def expandAtoms : Nat → List Atom → List (List Atom)
  | 0, atoms => [atoms]
  | _, [] => [[]]
  | fuel + 1, a :: rest =>
    let onward : List (List Atom) := (expandAtoms fuel rest).map (a :: ·)
    if !a.isChar '\x7b' then onward
    else
      match braceParts 0 rest with
      | none => onward
      | some ([part], after) =>
        match (Atom.text? part).bind rangeTexts? with
        | some texts =>
          let ends := expandAtoms fuel after
          texts.flatMap fun t => ends.map fun tail => t.map Atom.char ++ tail
        | none => onward
      | some (parts, after) =>
        let ends := expandAtoms fuel after
        (parts.flatMap (expandAtoms fuel)).flatMap fun front => ends.map (front ++ ·)

/-- The words that a word with braces stands for. -/
def expandBraces (w : Word) : List Word :=
  let atoms := Atom.ofWord w
  if atoms.any (·.isChar '\x7b') then (expandAtoms (2 * atoms.length + 2) atoms).map Atom.toWord
  else [w]

end NativeBuild.Shell
