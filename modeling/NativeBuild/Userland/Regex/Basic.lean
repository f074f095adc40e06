/-!
Regular expressions as data: characters and sets of them, places in a line, sequences, choices and
repetitions, and groups that what they matched can be asked for again.
-/

namespace NativeBuild.Text

/-- A set of characters: those in one of the ranges, or all others. -/
structure CharSet where
  negated : Bool
  ranges : List (Char × Char)
  deriving DecidableEq

/-- A regular expression.  `again` matches what the group of that number has matched. -/
inductive Regex where
  | empty
  | one (c : Char)
  | any
  | among (set : CharSet)
  | lineStart
  | lineEnd
  | wordStart
  | wordEnd
  | wordEdge
  | withinWord
  | seq (a b : Regex)
  | alt (a b : Regex)
  | times (a : Regex) (least : Nat) (most : Option Nat)
  | group (n : Nat) (a : Regex)
  | again (n : Nat)
  deriving DecidableEq

/-- Whether a character belongs to a set. -/
def CharSet.has (set : CharSet) (c : Char) : Bool :=
  (set.ranges.any fun r => r.1 ≤ c && c ≤ r.2) != set.negated

/-- The characters of a named class, all of them in ASCII. -/
def classRanges? (name : String) : Option (List (Char × Char)) :=
  let control (n : Nat) : Char := Char.ofNat n
  match name with
  | "upper" => some [('A', 'Z')]
  | "lower" => some [('a', 'z')]
  | "alpha" => some [('A', 'Z'), ('a', 'z')]
  | "digit" => some [('0', '9')]
  | "alnum" => some [('0', '9'), ('A', 'Z'), ('a', 'z')]
  | "xdigit" => some [('0', '9'), ('A', 'F'), ('a', 'f')]
  | "space" => some [(control 9, control 13), (' ', ' ')]
  | "blank" => some [('\t', '\t'), (' ', ' ')]
  | "punct" => some [('!', '/'), (':', '@'), ('[', control 96), ('\x7b', '~')]
  | "print" => some [(' ', '~')]
  | "graph" => some [('!', '~')]
  | "cntrl" => some [(control 0, control 31), (control 127, control 127)]
  | _ => none

/-- The characters of words. -/
def wordRanges : List (Char × Char) :=
  [('0', '9'), ('A', 'Z'), ('_', '_'), ('a', 'z')]

/-- Whether a character belongs to a word. -/
def isWordChar (c : Char) : Bool :=
  wordRanges.any fun r => r.1 ≤ c && c ≤ r.2

namespace Regex

/-- The number of parts of an expression, which bounds the steps of a match. -/
def size : Regex → Nat
  | .seq a b => a.size + b.size + 1
  | .alt a b => a.size + b.size + 1
  | .times a least _ => a.size * (least + 1) + 1
  | .group _ a => a.size + 1
  | _ => 1

/-- The expression that matches a text and nothing else. -/
def literal (text : List Char) : Regex :=
  text.foldr (fun c more => .seq (.one c) more) .empty

end Regex

end NativeBuild.Text
