import NativeBuild.Userland.Shell.Quote
import NativeBuild.Userland.Tool.Awk.Value

/-!
The words of a program.
-/

namespace NativeBuild.Tool.Awk

open Shell (Raw takeDigits isNameChar)
open Text (Regex)

/-- A word of a program: a number, a text, a regular expression, a name, the name of a function in
front of its arguments, a word with a meaning of its own, a sign, or the end of a line. -/
inductive Token where
  | number (n : Float)
  | text (t : Raw)
  | regex (t : Raw)
  | name (n : Raw)
  | callee (n : Raw)
  | known (n : String)
  | word (w : String)
  | sign (s : String)
  | newline

/-- The words with a meaning of their own. -/
def wordNames : List String :=
  ["BEGIN", "END", "function", "func", "if", "else", "while", "for", "do", "break", "continue",
    "next", "nextfile", "exit", "return", "delete", "in", "getline", "print", "printf"]

/-- The functions that are known from the start. -/
def knownNames : List String :=
  ["length", "substr", "index", "split", "sub", "gsub", "match", "sprintf", "sin", "cos", "atan2",
    "exp", "log", "sqrt", "int", "rand", "srand", "tolower", "toupper", "system", "close", "fflush",
    "systime", "strftime", "mktime"]

/-- The signs, those first that others start. -/
def signTexts : List String :=
  ["&&", "||", "++", "--", "+=", "-=", "*=", "/=", "%=", "^=", "==", "<=", ">=", "!=", "!~", ">>",
    "\x7b", "\x7d", "(", ")", "[", "]", ";", ",", "+", "-", "*", "/", "%", "^", "!", ">", "<", "|",
    "?", ":", "~", "$", "="]

/-- Whether a word ends an operand, so that a slash behind it divides. -/
def endsOperand : Token → Bool
  | .number _ => true
  | .text _ => true
  | .regex _ => true
  | .name _ => true
  | .known _ => true
  | .sign s => [")", "]", "$", "++", "--"].contains s
  | _ => false

/-- The text of a string up to its closing quote, and what follows. -/
def takeText : Nat → Raw → Option (Raw × Raw)
  | 0, _ => none
  | _, [] => none
  | fuel + 1, c :: rest =>
    if c = '"' then some ([], rest)
    else if c = '\n' then none
    else if c ≠ '\\' then (takeText fuel rest).map fun (t, rest) => (c :: t, rest)
    else
      let one (c : Char) (rest : Raw) : Option (Raw × Raw) :=
        (takeText fuel rest).map fun (t, rest) => (c :: t, rest)
      match rest with
      | [] => none
      | '\n' :: rest => takeText fuel rest
      | e :: after =>
        match e with
        | 'n' => one '\n' after
        | 't' => one '\t' after
        | 'r' => one '\r' after
        | 'a' => one (Char.ofNat 7) after
        | 'b' => one (Char.ofNat 8) after
        | 'f' => one (Char.ofNat 12) after
        | 'v' => one (Char.ofNat 11) after
        | '"' => one '"' after
        | '\\' => one '\\' after
        | 'x' =>
          let (n, left) := takeDigits 16 2 0 after
          if left.length = after.length then
            (takeText fuel after).map fun (t, rest) => ('\\' :: e :: t, rest)
          else one (Char.ofNat n) left
        | _ =>
          if '0' ≤ e ∧ e ≤ '7' then
            let (n, after) := takeDigits 8 3 0 rest
            one (Char.ofNat (n % 256)) after
          else (takeText fuel after).map fun (t, rest) => ('\\' :: e :: t, rest)

/-- The text of a regular expression up to its closing slash, and what follows. -/
def takeRegex : Bool → Raw → Option (Raw × Raw)
  | _, [] => none
  | _, '\n' :: _ => none
  | inSet, '\\' :: '/' :: rest => (takeRegex inSet rest).map fun (t, rest) => ('/' :: t, rest)
  | inSet, '\\' :: c :: rest => (takeRegex inSet rest).map fun (t, rest) => ('\\' :: c :: t, rest)
  | inSet, c :: rest =>
    if c = '/' then some ([], rest)
    else (takeRegex inSet rest).map fun (t, rest) => (c :: t, rest)

/-- The words of a program, in at most `fuel` steps.  `afterOperand` says that a slash divides. -/
def tokensWithin : Nat → Bool → Raw → Option (List Token)
  | 0, _, _ => none
  | _, _, [] => some []
  | fuel + 1, afterOperand, c :: rest =>
    let push (t : Token) (rest : Raw) : Option (List Token) :=
      (tokensWithin fuel (endsOperand t) rest).map (t :: ·)
    if c = ' ' ∨ c = '\t' ∨ c = '\r' then tokensWithin fuel afterOperand rest
    else if c = '\n' then push .newline rest
    else if c = '#' then tokensWithin fuel afterOperand (rest.dropWhile (· ≠ '\n'))
    else if c = '\\' ∧ rest.head? = some '\n' then tokensWithin fuel afterOperand (rest.drop 1)
    else if c = '"' then do
      let (t, rest) ← takeText (rest.length + 1) rest
      push (.text t) rest
    else if Text.isDigit c ∨ (c = '.' ∧ (rest.head?.any Text.isDigit)) then
      match readNumber (c :: rest) with
      | some (n, rest) => push (.number n) rest
      | none => none
    else if isNameChar c then
      let name := (c :: rest).takeWhile isNameChar
      let after := (c :: rest).drop name.length
      let word := String.ofList name
      if wordNames.contains word then push (.word word) after
      else if knownNames.contains word then push (.known word) after
      else if after.head? = some '(' then push (.callee name) after
      else push (.name name) after
    else if c = '/' ∧ !afterOperand then do
      let (t, rest) ← takeRegex false rest
      push (.regex t) rest
    else
      match signTexts.find? fun s => s.toList.isPrefixOf (c :: rest) with
      | some s =>
        push (.sign s) ((c :: rest).drop s.length)
      | none => none

/-- The words of a program. -/
def tokens? (text : Raw) : Option (List Token) :=
  tokensWithin (text.length + 1) false text

end NativeBuild.Tool.Awk
