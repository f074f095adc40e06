import NativeBuild.Userland.Shell.Raw

/-!
Texts written so that a shell reads them as they are.
-/

namespace NativeBuild.Shell

/-- Whether a character can stand in a word by itself. -/
def isPlainChar (c : Char) : Bool :=
  c.isAlphanum || ['_', '-', '.', '/', ':', ',', '+', '%', '@', '='].contains c

/-- Whether a character needs an escape to be shown. -/
def isControl (c : Char) : Bool :=
  c.toNat < 32 || c.toNat = 127 || 128 ≤ c.toNat

/-- An escape for a character that cannot be shown. -/
def escapeText (c : Char) : Raw :=
  match c with
  | '\n' => ['\\', 'n']
  | '\t' => ['\\', 't']
  | '\r' => ['\\', 'r']
  | _ =>
    if c.toNat = 7 then ['\\', 'a']
    else if c.toNat = 8 then ['\\', 'b']
    else if c.toNat = 11 then ['\\', 'v']
    else if c.toNat = 12 then ['\\', 'f']
    else if c.toNat = 27 then ['\\', 'E']
    else
      let digits := Text.digits 8 c.toNat
      '\\' :: (List.replicate (3 - digits.length) '0' ++ digits)

/-- A text in quotes with a dollar sign in front. -/
def dollarQuoted (text : Raw) : Raw :=
  ['$', '\''] ++ (text.flatMap fun c =>
    if isControl c then escapeText c
    else if c = '\'' || c = '\\' then ['\\', c]
    else [c]) ++ ['\'']

/-- A text in single quotes; one in the text is taken out of them. -/
def singleQuoted (text : Raw) : Raw :=
  '\'' :: (text.flatMap fun c => if c = '\'' then ['\'', '\\', '\'', '\''] else [c]) ++ ['\'']

/-- A text in quotes, of the kind that it needs. -/
def quoted (text : Raw) : Raw :=
  if text.any isControl then dollarQuoted text else singleQuoted text

/-- A text with a backslash in front of every character that needs one. -/
def backslashed (text : Raw) : Raw :=
  if text.isEmpty then ['\'', '\'']
  else if text.any isControl then dollarQuoted text
  else text.flatMap fun c => if isPlainChar c then [c] else ['\\', c]

/-- A text between double quotes. -/
def doubleQuoted (text : Raw) : Raw :=
  if text.any isControl then dollarQuoted text
  else
    '"' :: (text.flatMap fun c =>
      if c = '"' || c = '\\' || c = '$' || c.toNat = 96 then ['\\', c] else [c]) ++ ['"']

end NativeBuild.Shell
