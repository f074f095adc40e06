import NativeBuild.Path.Basic
import NativeBuild.Text.Decimal
import NativeBuild.Text.Utf8

/-!
Bytes as a shell and its tools handle them: each is kept as the character of its number, so that
bytes that are no text pass through unharmed.
-/

namespace NativeBuild.Shell

/-- Bytes, each as the character of its number. -/
abbrev Raw := List Char

/-- The text of a path given as bytes. -/
def rawPath (raw : Raw) : Path :=
  ⟨Text.decodeLossy (raw.map fun c => UInt8.ofNat c.toNat)⟩

/-- The bytes of a text. -/
def rawText (text : List Char) : Raw :=
  (Text.encode text).map fun b => Char.ofNat b.toNat

/-- The bytes of a string. -/
def rawString (s : String) : Raw :=
  rawText s.toList

/-- Bytes as characters. -/
def rawBytes (bytes : List UInt8) : Raw :=
  bytes.map fun b => Char.ofNat b.toNat

/-- Characters as bytes. -/
def bytesOf (raw : Raw) : List UInt8 :=
  raw.map fun c => UInt8.ofNat c.toNat

/-- The lines of a text, each without its end. -/
def lines (text : Raw) : List Raw :=
  match (Text.pieces '\n' text).reverse with
  | [] :: rest => rest.reverse
  | all => all.reverse

/-- Lines, each with its end. -/
def unlines (ls : List Raw) : Raw :=
  ls.flatMap fun l => l ++ ['\n']

/-- Words with a blank between them. -/
def spaced (words : List Raw) : Raw :=
  [' '].intercalate words

/-- The white space that may stand around numbers. -/
def isSpace (c : Char) : Bool :=
  c = ' ' || (9 ≤ c.toNat && c.toNat ≤ 13)

/-- The greatest whole number that an argument starts with. -/
def number (arg : Raw) : Nat :=
  Text.decimalValue (arg.takeWhile Text.isDigit)

/-- Whether an argument is a whole number. -/
def integer? (arg : Raw) : Option Int :=
  let arg := (Text.trim arg)
  match arg with
  | '-' :: rest => (Text.decimal? rest).map fun n => -(n : Int)
  | '+' :: rest => (Text.decimal? rest).map Int.ofNat
  | _ => (Text.decimal? arg).map Int.ofNat

/-- Whether `a` may come before `b` in byte order. -/
def inOrder (a b : Raw) : Bool :=
  !(b.map Char.toNat < a.map Char.toNat : Bool)

end NativeBuild.Shell
