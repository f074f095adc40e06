import NativeBuild.Userland.Shell.Script
import NativeBuild.Text.Blank

/-!
The characters of scripts: what ends a word, what makes a name, and how quoting is undone.
-/

namespace NativeBuild.Shell

/-- The mark of a backquoted command. -/
def backquote : Char := Char.ofNat 96

/-- Characters that end a word. -/
def isBreak (c : Char) : Bool :=
  c = ' ' || c = '\t' || c = '\n' || c = ';' || c = '&' || c = '|' || c = '<' || c = '>' ||
    c = '(' || c = ')'

/-- Characters of a name. -/
def isNameChar (c : Char) : Bool :=
  c.isAlphanum || c = '_'

/-- Whether a text is a name. -/
def isName (text : Raw) : Bool :=
  match text with
  | [] => false
  | c :: _ => !Text.isDigit c && text.all isNameChar

/-- Read the name in front of a text: a name, digits or one special character. -/
def takeName (text : Raw) : Raw × Raw :=
  match text with
  | [] => ([], [])
  | c :: rest =>
    if Text.isDigit c then (text.takeWhile Text.isDigit, text.dropWhile Text.isDigit)
    else if isNameChar c then (text.takeWhile isNameChar, text.dropWhile isNameChar)
    else if ['@', '*', '#', '?', '$', '!', '-'].contains c then ([c], rest)
    else ([], text)

/-- The text of a backquoted command up to its closing mark, and what follows it, if it is closed.
Between double quotes, a backslash protects those too. -/
def untilBackquote (isQuoted : Bool) : Raw → Option (Raw × Raw)
  | [] => none
  | '\\' :: c :: rest =>
    (untilBackquote isQuoted rest).map fun (inner, rest) =>
      if c = backquote || c = '\\' || c = '$' || (isQuoted && c = '"') then (c :: inner, rest)
      else ('\\' :: c :: inner, rest)
  | c :: rest =>
    if c = backquote then some ([], rest)
    else (untilBackquote isQuoted rest).map fun (inner, rest) => (c :: inner, rest)

/-- The text from the first character that is neither a blank nor joined to the line before, nor
part of a comment. -/
def skipBlank : Raw → Raw
  | ' ' :: rest => skipBlank rest
  | '\t' :: rest => skipBlank rest
  | '\\' :: '\n' :: rest => skipBlank rest
  | '#' :: rest => rest.dropWhile (· ≠ '\n')
  | text => text

/-- The text from the first thing that is no blank, comment or line end, in at most `fuel` lines. -/
def skipLinesWithin : Nat → Raw → Raw
  | 0, text => text
  | fuel + 1, text =>
    match skipBlank text with
    | '\n' :: rest => skipLinesWithin fuel rest
    | text => text

/-- The text from the first thing that is no blank, comment or line end. -/
def skipLines (text : Raw) : Raw :=
  skipLinesWithin (text.length + 1) text

/-- The characters in front of a text that neither end a word nor quote anything. -/
def plainAhead (text : Raw) : Raw :=
  text.takeWhile fun c =>
    !isBreak c && c ≠ '\\' && c ≠ '\'' && c ≠ '"' && c ≠ '$' && c ≠ backquote

/-- The reserved words of a language. -/
def reserved (language : Language) : List String :=
  ["if", "then", "else", "elif", "fi", "while", "until", "do", "done", "for", "in", "case", "esac",
    "!", "\x7b", "\x7d"] ++
    match language with
    | .plain => []
    | .rich => ["[[", "]]", "function", "time", "select"]

/-- The reserved word in front of a text, and what follows it. -/
def keyword? (language : Language) (text : Raw) : Option (String × Raw) :=
  let word := plainAhead text
  let rest := text.drop word.length
  if (rest.head?.map isBreak).getD true then
    ((reserved language).find? (·.toList = word)).map (·, rest)
  else none

/-- The text after a reserved word. -/
def afterKeyword? (language : Language) (name : String) (text : Raw) : Option Raw :=
  match keyword? language text with
  | some (word, rest) => if word = name then some rest else none
  | none => none

/-- The text after another one in front of it. -/
def afterText? (start : String) (text : Raw) : Option Raw :=
  let start := start.toList
  if start.isPrefixOf text then some (text.drop start.length) else none

/-- The value of digits of a base in front of a text, at most `limit` of them, and what follows. -/
def takeDigits (base : Nat) : Nat → Nat → Raw → Nat × Raw
  | 0, n, text => (n, text)
  | _, n, [] => (n, [])
  | limit + 1, n, c :: rest =>
    match Text.hexValue? c with
    | some d => if d < base then takeDigits base limit (n * base + d) rest else (n, c :: rest)
    | none => (n, c :: rest)

/-- The bytes of a character by its number. -/
def bytesOfNumber (n : Nat) : Raw :=
  if n < 128 then [Char.ofNat n] else rawText [Char.ofNat n]

/-- What a backslash followed by `text` stands for between quotes with a dollar sign in front, and
the text after it. -/
def dollarEscape (text : Raw) : Raw × Raw :=
  let number (base limit : Nat) (asText : Bool) (rest : Raw) : Raw × Raw :=
    let (n, after) := takeDigits base limit 0 rest
    if after.length = rest.length then ('\\' :: text.take 1, rest)
    else (if asText then bytesOfNumber n else [Char.ofNat (n % 256)], after)
  match text with
  | [] => (['\\'], [])
  | 'a' :: rest => ([Char.ofNat 7], rest)
  | 'b' :: rest => ([Char.ofNat 8], rest)
  | 'e' :: rest => ([Char.ofNat 27], rest)
  | 'E' :: rest => ([Char.ofNat 27], rest)
  | 'f' :: rest => ([Char.ofNat 12], rest)
  | 'n' :: rest => (['\n'], rest)
  | 'r' :: rest => (['\r'], rest)
  | 't' :: rest => (['\t'], rest)
  | 'v' :: rest => ([Char.ofNat 11], rest)
  | 'x' :: rest => number 16 2 false rest
  | 'u' :: rest => number 16 4 true rest
  | 'U' :: rest => number 16 8 true rest
  | 'c' :: c :: rest => ([Char.ofNat (c.toUpper.toNat % 32)], rest)
  | c :: rest =>
    if c = '\\' || c = '\'' || c = '"' || c = '?' then ([c], rest)
    else if '0' ≤ c ∧ c ≤ '7' then number 8 3 false text
    else (['\\', c], rest)

/-- The text between quotes with a dollar sign in front, and what follows it, in at most `fuel`
steps. -/
def untilDollarQuote : Nat → Raw → Option (Raw × Raw)
  | 0, _ => none
  | _, [] => none
  | _, '\'' :: rest => some ([], rest)
  | fuel + 1, '\\' :: rest =>
    let (part, rest) := dollarEscape rest
    (untilDollarQuote fuel rest).map fun (inner, rest) => (part ++ inner, rest)
  | fuel + 1, c :: rest =>
    (untilDollarQuote fuel rest).map fun (inner, rest) => (c :: inner, rest)

/-- The lines up to the one that equals `mark`, and what follows it. -/
def untilMark (mark : Raw) (stripTabs : Bool) : Nat → Raw → Raw × Raw
  | 0, text => ([], text)
  | _, [] => ([], [])
  | fuel + 1, text =>
    let line := text.takeWhile (· ≠ '\n')
    let rest := (text.dropWhile (· ≠ '\n')).drop 1
    let line := if stripTabs then line.dropWhile (· = '\t') else line
    if line = mark then ([], rest)
    else
      let (more, rest) := untilMark mark stripTabs fuel rest
      (line ++ '\n' :: more, rest)

/-- The text of a word that is plain throughout. -/
def plainText? (w : Word) : Option Raw :=
  w.foldlM (fun text piece => match piece with
    | .plain more => some (text ++ more)
    | _ => none) []

/-- The text of a word without its quoting, as the end mark of a text in the script. -/
def markText (w : Word) : Raw :=
  w.flatMap fun
    | .plain text => text
    | .quoted text => text
    | _ => []

end NativeBuild.Shell
