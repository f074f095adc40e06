import NativeBuild.Userland.Tool.Grep

/-!
Editing lines by a script: reading the script.
-/

namespace NativeBuild.Tool.Sed

open Shell
open Text (Regex RegexForm)

/-- A regular expression of a script; an empty one stands for the one that was used last. -/
abbrev Expression := Option (Regex × Bool)

/-- Which lines a command is for. -/
inductive Address where
  | line (n : Nat)
  | every (first step : Nat)
  | last
  | holds (r : Expression)
  | more (n : Nat)
  | multiple (n : Nat)

/-- A part of the text that is put in the stead of a match; what follows a change of case is in that
case, one character of it or all of it. -/
inductive Part where
  | text (t : Raw)
  | group (n : Nat)
  | recase (upper : Option Bool) (one : Bool)

/-- What is done with a match. -/
structure Substitution where
  pattern : Expression
  parts : List Part
  all : Bool
  first : Nat
  prints : Bool
  file : Option Raw

/-- What a command does.  A block has the number of commands in it. -/
inductive Function where
  | block (length : Nat)
  | printNumber
  | append (text : Raw)
  | insert (text : Raw)
  | change (text : Raw)
  | branch (label : Raw)
  | branchIf (expected : Bool) (label : Raw)
  | label (name : Raw)
  | delete
  | deleteFirst
  | get
  | getMore
  | hold
  | holdMore
  | exchange
  | list
  | next
  | nextMore
  | print
  | printFirst
  | quit (prints : Bool) (status : Nat)
  | readFile (name : Raw)
  | writeFile (name : Raw)
  | substitute (s : Substitution)
  | translate (table : List (Char × Char))
  | empty
  | fileName
  | nothing

/-- A command: the lines that it is for, or all others, and what it does. -/
structure Command where
  start : Option Address
  stop : Option Address
  negated : Bool
  function : Function

/-- How a script is read: the form of its regular expressions. -/
abbrev Form := RegexForm

/-- The text up to a mark that is not protected, and what follows it; the backslash in front of a
protected mark is taken away, and a line end may be written by a letter. -/
def untilMark (mark : Char) : Raw → Option (Raw × Raw)
  | [] => none
  | ['\\'] => none
  | '\\' :: c :: rest =>
    (untilMark mark rest).map fun (text, rest) =>
      if c = mark then (c :: text, rest)
      else ('\\' :: c :: text, rest)
  | c :: rest =>
    if c = mark then some ([], rest)
    else (untilMark mark rest).map fun (text, rest) => (c :: text, rest)

/-- A regular expression as it is written in a script. -/
def expression? (form : Form) (text : Raw) (foldsCase : Bool) : Option Expression :=
  if text.isEmpty then some none
  else (Regex.parse? form text).map fun r => some (r, foldsCase)

/-- The text without the blanks in front. -/
def skipBlanks (text : Raw) : Raw :=
  text.dropWhile fun c => c = ' ' || c = '\t'

/-- Read an address, if there is one; `none` if it is wrong. -/
def readAddress (form : Form) (text : Raw) : Option (Option Address × Raw) :=
  let expression (mark : Char) (rest : Raw) : Option (Option Address × Raw) := do
    let (pattern, rest) ← untilMark mark rest
    let folds := rest.head? = some 'I'
    let rest := rest.dropWhile fun c => c = 'I' || c = 'M'
    some (some (.holds (← expression? form pattern folds)), rest)
  match text with
  | '$' :: rest => some (some .last, rest)
  | '/' :: rest => expression '/' rest
  | '\\' :: mark :: rest => expression mark rest
  | c :: rest =>
    if Text.isDigit c then
      let digits := text.takeWhile Text.isDigit
      let n := Text.decimalValue digits
      match text.drop digits.length with
      | '~' :: rest =>
        let step := rest.takeWhile Text.isDigit
        some (some (.every n (Text.decimalValue step)), rest.drop step.length)
      | rest => some (some (.line n), rest)
    else if c = '+' || c = '~' then
      let digits := rest.takeWhile Text.isDigit
      let n := Text.decimalValue digits
      if digits.isEmpty then none
      else some (some (if c = '+' then .more n else .multiple n), rest.drop digits.length)
    else some (none, text)
  | [] => some (none, [])

/-- The character that a letter behind a backslash and what follows it stand for, and the text
behind them. -/
def escaped? (text : Raw) : Option (Char × Raw) :=
  let coded (base limit : Nat) (rest : Raw) : Option (Char × Raw) :=
    let (n, after) := takeDigits base limit 0 rest
    if after.length = rest.length then none else some (Char.ofNat (n % 256), after)
  match text with
  | 'a' :: rest => some (Char.ofNat 7, rest)
  | 'f' :: rest => some (Char.ofNat 12, rest)
  | 'n' :: rest => some ('\n', rest)
  | 'r' :: rest => some ('\r', rest)
  | 't' :: rest => some ('\t', rest)
  | 'v' :: rest => some (Char.ofNat 11, rest)
  | 'c' :: c :: rest => some (Char.ofNat ((c.toUpper.toNat + 64) % 128), rest)
  | 'd' :: rest => coded 10 3 rest
  | 'o' :: rest => coded 8 3 rest
  | 'x' :: rest => coded 16 2 rest
  | _ => none

/-- The parts of the text that is put in the stead of a match, in at most `fuel` steps. -/
def readParts : Nat → Raw → List Part
  | 0, _ => []
  | _, [] => []
  | fuel + 1, '&' :: rest => .group 0 :: readParts fuel rest
  | fuel + 1, '\\' :: c :: rest =>
    if Text.isDigit c then .group (Text.digitValue c) :: readParts fuel rest
    else
      match escaped? (c :: rest) with
      | some (e, after) => .text [e] :: readParts fuel after
      | none =>
        let part : Part :=
          match c with
          | 'U' => .recase (some true) false
          | 'L' => .recase (some false) false
          | 'u' => .recase (some true) true
          | 'l' => .recase (some false) true
          | 'E' => .recase none false
          | _ => .text [c]
        part :: readParts fuel rest
  | fuel + 1, c :: rest => .text [c] :: readParts fuel rest

/-- Read the marks behind a substitution. -/
def readFlags (form : Form) (pattern : Raw) : Nat → Bool → Substitution → Raw →
    Option (Substitution × Raw)
  | 0, _, _, _ => none
  | fuel + 1, folds, s, text =>
    let finish (rest : Raw) : Option (Substitution × Raw) := do
      some ({ s with pattern := ← expression? form pattern folds }, rest)
    match text with
    | 'g' :: rest => readFlags form pattern fuel folds { s with all := true } rest
    | 'p' :: rest => readFlags form pattern fuel folds { s with prints := true } rest
    | 'i' :: rest => readFlags form pattern fuel true s rest
    | 'I' :: rest => readFlags form pattern fuel true s rest
    | 'm' :: rest => readFlags form pattern fuel folds s rest
    | 'M' :: rest => readFlags form pattern fuel folds s rest
    | 'w' :: rest =>
      let name := (skipBlanks rest).takeWhile (· ≠ '\n')
      do
        let (s, _) ← finish []
        some ({ s with file := some name }, rest.dropWhile (· ≠ '\n'))
    | c :: _ =>
      if Text.isDigit c then
        let digits := text.takeWhile Text.isDigit
        let n := Text.decimalValue digits
        if n = 0 then none
        else readFlags form pattern fuel folds { s with first := n } (text.drop digits.length)
      else finish text
    | [] => finish []

/-- A text with the escapes of a table of characters resolved. -/
def tableText : Raw → Raw
  | '\\' :: 'n' :: rest => '\n' :: tableText rest
  | '\\' :: 't' :: rest => '\t' :: tableText rest
  | '\\' :: '\\' :: rest => '\\' :: tableText rest
  | c :: rest => c :: tableText rest
  | [] => []

/-- The text of a command that adds lines, and what follows it: up to the end of a line that does
not end in a backslash; in at most `fuel` steps. -/
def takeText : Nat → Raw → Raw × Raw
  | 0, rest => ([], rest)
  | _, [] => (['\n'], [])
  | _, '\n' :: rest => (['\n'], rest)
  | fuel + 1, '\\' :: c :: rest =>
    let (c, rest) := (escaped? (c :: rest)).getD (c, rest)
    let (text, rest) := takeText fuel rest
    (c :: text, rest)
  | fuel + 1, c :: rest =>
    let (text, rest) := takeText fuel rest
    (c :: text, rest)

/-- The text of a command that adds lines behind its letter. -/
def addedText (text : Raw) : Raw × Raw :=
  let fuel := text.length + 1
  match skipBlanks text with
  | ['\\'] => ([], [])
  | '\\' :: rest =>
    match skipBlanks rest with
    | '\n' :: rest => takeText fuel rest
    | _ => takeText fuel rest
  | rest => takeText fuel rest

/-- Read the commands of a script up to the end of a block; `depth` blocks are open. -/
def readCommands (form : Form) : Nat → Nat → Raw → Option (List Command × Raw)
  | 0, _, _ => none
  | fuel + 1, depth, text => do
    let text := text.dropWhile fun c => isSpace c || c = ';'
    match text with
    | [] => if depth = 0 then some ([], []) else none
    | '#' :: rest => readCommands form fuel depth (rest.dropWhile (· ≠ '\n'))
    | '\x7d' :: rest => if depth = 0 then none else some ([], rest)
    | _ =>
      let (start, rest) ← readAddress form text
      let rest := skipBlanks rest
      let (stop, rest) ← match start, rest with
        | some _, ',' :: rest => do
          let (stop, rest) ← readAddress form (skipBlanks rest)
          if stop.isNone then none
          some (stop, rest)
        | _, _ => some (none, rest)
      let rest := skipBlanks rest
      let negated := rest.head? = some '!'
      let rest := skipBlanks (rest.dropWhile fun c => c = '!')
      let one (f : Function) : Command := ⟨start, stop, negated, f⟩
      let also (f : Function) (rest : Raw) : Option (List Command × Raw) := do
        let (more, rest) ← readCommands form fuel depth rest
        some (one f :: more, rest)
      let ended (f : Function) (rest : Raw) : Option (List Command × Raw) :=
        match skipBlanks rest with
        | [] => also f []
        | c :: rest =>
          if c = ';' || c = '\n' || c = '\x7d' || c = '#' then also f (c :: rest) else none
      let label (rest : Raw) : Raw × Raw :=
        let rest := skipBlanks rest
        let name := rest.takeWhile fun c => c ≠ '\n' && c ≠ ';' && c ≠ '\x7d'
        ((name.reverse.dropWhile isSpace).reverse, rest.drop name.length)
      let file (rest : Raw) : Raw × Raw :=
        let rest := skipBlanks rest
        (rest.takeWhile (· ≠ '\n'), rest.dropWhile (· ≠ '\n'))
      match rest with
      | [] => none
      | c :: rest =>
        match c with
        | '\x7b' => do
          let (inner, rest) ← readCommands form fuel (depth + 1) rest
          let (more, rest) ← readCommands form fuel depth rest
          some (one (.block inner.length) :: inner ++ more, rest)
        | '=' => ended .printNumber rest
        | 'd' => ended .delete rest
        | 'D' => ended .deleteFirst rest
        | 'g' => ended .get rest
        | 'G' => ended .getMore rest
        | 'h' => ended .hold rest
        | 'H' => ended .holdMore rest
        | 'x' => ended .exchange rest
        | 'l' => ended .list (skipBlanks rest |>.dropWhile Text.isDigit)
        | 'n' => ended .next rest
        | 'N' => ended .nextMore rest
        | 'p' => ended .print rest
        | 'P' => ended .printFirst rest
        | 'z' => ended .empty rest
        | 'F' => ended .fileName rest
        | 'q' =>
          let rest := skipBlanks rest
          ended (.quit true (number rest)) (rest.dropWhile Text.isDigit)
        | 'Q' =>
          let rest := skipBlanks rest
          ended (.quit false (number rest)) (rest.dropWhile Text.isDigit)
        | 'a' =>
          let (text, rest) := addedText rest
          also (.append text) rest
        | 'i' =>
          let (text, rest) := addedText rest
          also (.insert text) rest
        | 'c' =>
          let (text, rest) := addedText rest
          also (.change text) rest
        | 'b' =>
          let (name, rest) := label rest
          also (.branch name) rest
        | 't' =>
          let (name, rest) := label rest
          also (.branchIf true name) rest
        | 'T' =>
          let (name, rest) := label rest
          also (.branchIf false name) rest
        | ':' =>
          let (name, rest) := label rest
          if name.isEmpty || start.isSome then none else also (.label name) rest
        | 'r' =>
          let (name, rest) := file rest
          also (.readFile name) rest
        | 'w' =>
          let (name, rest) := file rest
          also (.writeFile name) rest
        | 's' =>
          match rest with
          | mark :: rest => do
            let (pattern, rest) ← untilMark mark rest
            let (word, rest) ← untilMark mark rest
            let s : Substitution := ⟨none, readParts (word.length + 1) word, false, 1, false, none⟩
            let (s, rest) ← readFlags form pattern (rest.length + 2) false s rest
            ended (.substitute s) rest
          | [] => none
        | 'y' =>
          match rest with
          | mark :: rest => do
            let (first, rest) ← untilMark mark rest
            let (second, rest) ← untilMark mark rest
            let first := tableText first
            let second := tableText second
            if first.length ≠ second.length then none
            ended (.translate (first.zip second)) rest
          | [] => none
        | _ => none

/-- Read a script. -/
def parse? (form : Form) (text : Raw) : Option (List Command) :=
  (readCommands form (2 * text.length + 4) 0 text).map Prod.fst

end NativeBuild.Tool.Sed
