import NativeBuild.Userland.Tool.List
import NativeBuild.Userland.Regex.Match
import NativeBuild.Userland.Regex.Parse

/-!
Finding lines by regular expressions, and computing values of expressions.
-/

namespace NativeBuild.Tool

open Shell
open Text (Regex Subject Match RegexForm)

/-- What lines are searched for: any of some expressions, which may have to match a whole line, or
stand between what belongs to no word. -/
structure Wanted where
  choices : List Regex
  wholeLine : Bool
  wholeWord : Bool
  foldsCase : Bool

namespace Wanted

/-- A line as it is searched. -/
def subject (w : Wanted) (line : Raw) : Subject :=
  ⟨line.toArray, w.foldsCase⟩

/-- Whether a match stands between what belongs to no word. -/
def isWord (t : Subject) (m : Match) : Bool :=
  let before := m.start ≠ 0 && ((t.at? (m.start - 1)).map Text.isWordChar).getD false
  let after := ((t.at? m.stop).map Text.isWordChar).getD false
  !before && !after

/-- The longest match at a place that suits. -/
def matchAt (w : Wanted) (t : Subject) (i : Nat) : Option Match :=
  let suits (m : Match) : Bool :=
    (!w.wholeLine || (m.start = 0 && m.stop = t.chars.size)) && (!w.wholeWord || isWord t m)
  let longest (a b : Option Match) : Option Match :=
    match a, b with
    | some x, some y => if x.stop < y.stop then b else a
    | none, _ => b
    | _, none => a
  let shorter (r : Regex) : Option Match :=
    if !w.wholeWord then none
    else
      (List.range (t.chars.size - i)).reverse.findSome? fun n =>
        let part : Subject := ⟨t.chars.extract 0 (i + n + 1), t.foldCase⟩
        (r.matchAt part i).filter fun m =>
          m.stop = i + n + 1 && suits m && !(r.matchAt t i).isNone
  w.choices.foldl
    (fun best r =>
      longest best (((r.matchAt t i).filter suits).orElse fun _ => shorter r)) none

/-- The first match from a place on. -/
def search (w : Wanted) (t : Subject) (start : Nat) : Option Match :=
  if w.wholeLine then if start = 0 then w.matchAt t 0 else none
  else (List.range' start (t.chars.size + 1 - start)).findSome? (w.matchAt t)

/-- The parts of a line that match and are not empty, with their places, in at most `fuel` steps. -/
def parts (w : Wanted) (t : Subject) : Nat → Nat → List (Nat × Raw)
  | 0, _ => []
  | fuel + 1, start =>
    match w.search t start with
    | none => []
    | some m =>
      if m.stop = m.start then parts w t fuel (m.stop + 1)
      else (m.start, t.slice m.start m.stop) :: parts w t fuel m.stop

/-- Whether a line is wanted. -/
def isIn (w : Wanted) (line : Raw) : Bool :=
  (w.search (w.subject line) 0).isSome

end Wanted

/-- How the patterns of a call are written. -/
inductive PatternForm where
  | regex (form : RegexForm)
  | fixed

/-- A line of a file with its number and the place of its first byte. -/
structure Line where
  number : Nat
  offset : Nat
  text : Raw

/-- The lines of a text, which end in a given character. -/
def Line.all (ending : Char) (text : Raw) : List Line :=
  let step (acc : List Line × Nat × Nat) (l : Raw) : List Line × Nat × Nat :=
    (⟨acc.2.1, acc.2.2, l⟩ :: acc.1, acc.2.1 + 1, acc.2.2 + l.length + 1)
  let pieces := Text.pieces ending text
  let whole := if pieces.getLast? = some [] then pieces.dropLast else pieces
  (whole.foldl step ([], 1, 0)).1.reverse

/-- What is shown of a file: its lines, each with whether it was found or stands around one that
was; a gap is shown where lines are left out between them. -/
def contextOf (before after : Nat) (found : Line → Bool) (ls : List Line) :
    List (Option (Line × Bool)) :=
  let hits := (ls.filter found).map (·.number)
  let isNear (n : Nat) : Bool := hits.any fun h => h ≤ n + before && n ≤ h + after
  let shown := ls.filter fun l => isNear l.number
  let step (acc : List (Option (Line × Bool)) × Nat) (l : Line) :
      List (Option (Line × Bool)) × Nat :=
    let gap : List (Option (Line × Bool)) :=
      if acc.2 ≠ 0 && acc.2 + 1 ≠ l.number && (before ≠ 0 || after ≠ 0) then [none] else []
    (some (l, hits.contains l.number) :: (gap ++ acc.1), l.number)
  (shown.foldl step ([], 0)).1.reverse

/-- Search one file and show what was found; the answer is the number of lines found. -/
def grepText (g : Given) (w : Wanted) (name : Raw) (named : Bool) (text : Raw) : Act Nat := do
  let found (l : Line) : Bool := w.isIn l.text != g.has 'v'
  let ending := if g.has 'z' then Char.ofNat 0 else '\n'
  let ls := Line.all ending text
  let outLine (text : Raw) : Act Unit := out (text ++ [ending])
  let isBinary := !g.has 'a' && !g.has 'z' && text.contains (Char.ofNat 0)
  let limit : Nat := ((g.value? 'm').map number).getD ls.length
  let hits := (ls.filter found).take limit
  let label (mark : Char) (l : Line) : Raw :=
    (if named then name ++ [mark] else []) ++
      (if g.has 'n' then Text.decimal l.number ++ [mark] else []) ++
      if g.has 'b' then Text.decimal l.offset ++ [mark] else []
  if g.has 'q' then return hits.length
  else if g.has 'l' then
    if !hits.isEmpty then outLine name
  else if g.has 'L' then
    if hits.isEmpty then outLine name
  else if g.has 'c' then
    outLine ((if named then name ++ [':'] else []) ++ Text.decimal hits.length)
  else if isBinary then
    if !hits.isEmpty then
      modify fun p => p.write 2 (rawString "grep: " ++ name ++ rawString ": binary file matches\n")
  else if g.has 'o' then
    for l in hits do
      if !g.has 'v' then
        for (start, part) in w.parts (w.subject l.text) (l.text.length + 2) 0 do
          outLine (label ':' { l with offset := l.offset + start } ++ part)
  else
    let around (letter : Char) : Nat :=
      ((g.value? letter).orElse fun _ => g.value? 'C').elim 0 number
    let last := (hits.getLast?.map (·.number)).getD 0
    let numbers := hits.map (·.number)
    let shown := contextOf (around 'B') (around 'A') (fun l => numbers.contains l.number)
      (if hits.length = limit then ls.filter fun l => l.number ≤ last + around 'A' else ls)
    for item in shown do
      match item with
      | some (l, isHit) => outLine (label (if isHit then ':' else '-') l ++ l.text)
      | none =>
        if !g.has '1' then outLine ((g.value? '2').getD (rawString "--"))
  return hits.length

/-- The files in a directory and below it that may be searched, in order. -/
def filesBelow (p : Process) (path : Raw) : List Raw :=
  match p.files.find p.here true (rawPath path) with
  | .ok (loc, .directory) =>
    let base := if path.getLast? = some '/' then path else path ++ ['/']
    p.files.entries.filterMap fun (place, e) =>
      if Files.isBelow loc place && e.isRegular then
        some (base ++ rawText (['/'].intercalate (place.drop loc.length)))
      else none
  | _ => [path]

/-- Whether a file is to be searched, by the patterns of names that are wanted and unwanted. -/
def isChosen (g : Given) (path : Raw) : Bool :=
  let name := lastPart path []
  let wanted := g.values 'I'
  (wanted.isEmpty || wanted.any (nameMatches · name)) &&
    !(g.values 'X').any (nameMatches · name)

/-- A pattern with the letters for digits spelt out. -/
def perlPattern : Raw → Raw
  | '\\' :: 'd' :: rest => rawString "[0-9]" ++ perlPattern rest
  | '\\' :: 'D' :: rest => rawString "[^0-9]" ++ perlPattern rest
  | '\\' :: c :: rest => '\\' :: c :: perlPattern rest
  | '(' :: '?' :: ':' :: rest => '(' :: perlPattern rest
  | c :: rest => c :: perlPattern rest
  | [] => []

/-- Find lines. -/
def grep (usual : PatternForm) (c : Call) : Act Nat :=
  let known : OptionSet :=
    { letters := "EFGPe:f:ivwxyclLqsonHhbm:A:B:C:rRzaI:X:TZD::U0:12:"
      long := [("extended-regexp", 'E'), ("fixed-strings", 'F'), ("basic-regexp", 'G'),
        ("regexp", 'e'), ("file", 'f'), ("ignore-case", 'i'), ("invert-match", 'v'),
        ("word-regexp", 'w'), ("line-regexp", 'x'), ("count", 'c'), ("files-with-matches", 'l'),
        ("files-without-match", 'L'), ("quiet", 'q'), ("silent", 'q'), ("no-messages", 's'),
        ("only-matching", 'o'), ("line-number", 'n'), ("with-filename", 'H'), ("no-filename", 'h'),
        ("byte-offset", 'b'), ("max-count", 'm'), ("after-context", 'A'), ("before-context", 'B'),
        ("context", 'C'), ("recursive", 'r'), ("text", 'a'), ("include", 'I'), ("exclude", 'X'),
        ("color", 'D'), ("colour", 'D'), ("null", 'Z'), ("perl-regexp", 'P'), ("label", '0'),
        ("null-data", 'z'), ("no-group-separator", '1'),
        ("group-separator", '2')] }
  c.withOptions known 2 fun g => do
    let mut status := 0
    let mut patterns : List Raw := g.values 'e'
    let mut names := g.operands
    for file in g.values 'f' do
      match ← content file with
      | .ok text => patterns := patterns ++ lines text
      | .error e =>
        c.complain (fileFault file e)
        status := 2
    if patterns.isEmpty && !g.has 'e' && !g.has 'f' then
      match names with
      | first :: rest =>
        patterns := [first]
        names := rest
      | [] => status := 2
    if status ≠ 0 then return status
    let form : PatternForm := match g.last? ['E', 'F', 'G', 'P'] with
      | some 'E' => .regex .extended
      | some 'P' => .regex .extended
      | some 'F' => .fixed
      | some _ => .regex .basic
      | none => usual
    let read (pattern : Raw) : Option Regex :=
      match form with
      | .fixed => some (Regex.literal pattern)
      | .regex form => Regex.parse? form (if g.has 'P' then perlPattern pattern else pattern)
    match (patterns.flatMap (Text.pieces '\n')).mapM read with
    | none => c.refuse "bad regular expression" 2
    | some choices =>
      let w : Wanted :=
        { choices, wholeLine := g.has 'x', wholeWord := g.has 'w'
          foldsCase := g.has 'i' || g.has 'y' }
      let deep := g.has 'r' || g.has 'R'
      let p ← get
      let starts := if !names.isEmpty then names else if deep then [['.']] else [['-']]
      let all := if deep then
          starts.flatMap fun n => if n = ['-'] then [n] else
            let below := filesBelow p n
            let below := if names.isEmpty then below.map fun path => path.drop 2 else below
            below.filter fun path => path = n || isChosen g path
        else starts
      let several := match g.last? ['H', 'h'] with
        | some 'H' => true
        | some _ => false
        | none => starts.length > 1 || (deep && all ≠ starts)
      let mut found := 0
      for name in all do
        match ← content name with
        | .ok text =>
          let shown :=
            if name = ['-'] then (g.value? '0').getD (rawString "(standard input)") else name
          let n ← grepText g w shown several text
          found := found + if g.has 'L' then (if n = 0 then 1 else 0) else n
        | .error e =>
          if e = .isDirectory then
            c.complain (name ++ rawString ": Is a directory")
            let n ← grepText g w name several []
            found := found + if g.has 'L' then (if n = 0 then 1 else 0) else n
          else
            if !g.has 's' then c.complain (fileFault name e)
            status := 2
      if g.has 'q' && found ≠ 0 then return 0
      else if status ≠ 0 then return status
      else return if found = 0 then 1 else 0

/-! ### Expressions -/

/-- The whole number that an operand is. -/
def operandNumber? (text : Raw) : Option Int :=
  match text with
  | '-' :: rest => (Text.decimal? rest).map fun n => -(n : Int)
  | _ => (Text.decimal? text).map Int.ofNat

/-- Whether a value counts as nothing. -/
def isNull (text : Raw) : Bool :=
  text.isEmpty ||
    (let digits := if text.head? = some '-' then text.drop 1 else text
     !digits.isEmpty && digits.all (· = '0'))

/-- The part of a text that an expression matches from the start: its first group, if there is one,
and else the number of characters. -/
def matchedPart (text pattern : Raw) : Option Raw :=
  (Regex.parse? .basic pattern).map fun r =>
    let t : Subject := ⟨text.toArray, false⟩
    let grouped := (pattern.zip (pattern.drop 1)).any fun pair => pair = ('\\', '(')
    match r.matchAt t 0 with
    | some m => if grouped then (m.group? t 1).getD [] else Text.decimal m.stop
    | none => if grouped then [] else ['0']

/-- What a part of an expression comes to, and the arguments behind it. -/
abbrev Evaluated := Option (Raw × List Raw)

/-- The operators between two values, by their rank, the weakest first. -/
def expressionOperators : List (List String) :=
  [["|"], ["&"], ["<", "<=", "=", "==", "!=", ">=", ">"], ["+", "-"], ["*", "/", "%"], [":"]]

/-- Apply an operator of an expression. -/
def applyOperator (op : String) (a b : Raw) : Option Raw :=
  let number (f : Int → Int → Option Int) : Option Raw := do
    let n ← f (← operandNumber? a) (← operandNumber? b)
    some (Text.signedDecimal n)
  let compare (texts : Bool) (numbers : Int → Int → Bool) : Option Raw :=
    let holds := match operandNumber? a, operandNumber? b with
      | some m, some n => numbers m n
      | _, _ => texts
    some (if holds then ['1'] else ['0'])
  match op with
  | "|" => some (if !isNull a then a else if isNull b then ['0'] else b)
  | "&" => some (if isNull a || isNull b then ['0'] else a)
  | "<" => compare (!(inOrder b a)) (· < ·)
  | "<=" => compare (inOrder a b) (· ≤ ·)
  | "=" => compare (a = b) (· = ·)
  | "==" => compare (a = b) (· = ·)
  | "!=" => compare (a ≠ b) (· ≠ ·)
  | ">=" => compare (inOrder b a) (· ≥ ·)
  | ">" => compare (!(inOrder a b)) (· > ·)
  | "+" => number fun m n => some (m + n)
  | "-" => number fun m n => some (m - n)
  | "*" => number fun m n => some (m * n)
  | "/" => number fun m n => if n = 0 then none else some (m.tdiv n)
  | "%" => number fun m n => if n = 0 then none else some (m.tmod n)
  | _ => matchedPart a b

mutual

/-- Evaluate operators of a rank and those that bind closer. -/
def evaluateRank : Nat → Nat → List Raw → Evaluated
  | 0, _, _ => none
  | fuel + 1, rank, args =>
    match expressionOperators[rank]? with
    | none => evaluateAtom fuel args
    | some _ => do
      let (a, rest) ← evaluateRank fuel (rank + 1) args
      evaluateRest fuel rank a rest

/-- Go on behind a value with operators of a rank. -/
def evaluateRest : Nat → Nat → Raw → List Raw → Evaluated
  | 0, _, _, _ => none
  | fuel + 1, rank, a, args =>
    match args with
    | op :: rest =>
      let op := String.ofList op
      if ((expressionOperators[rank]?).getD []).contains op then do
        let (b, rest) ← evaluateRank fuel (rank + 1) rest
        evaluateRest fuel rank (← applyOperator op a b) rest
      else some (a, args)
    | [] => some (a, [])

/-- Evaluate a value, a bracket or one of the named operations. -/
def evaluateAtom : Nat → List Raw → Evaluated
  | 0, _ => none
  | fuel + 1, args =>
    match args with
    | [] => none
    | ['('] :: rest => do
      let (a, rest) ← evaluateRank fuel 0 rest
      match rest with
      | [')'] :: rest => some (a, rest)
      | _ => none
    | ['+'] :: a :: rest => some (a, rest)
    | word :: rest =>
      if rest.isEmpty then some (word, [])
      else
        match String.ofList word with
        | "length" => do
          let (a, rest) ← evaluateAtom fuel rest
          some (Text.decimal a.length, rest)
        | "match" => do
          let (a, rest) ← evaluateAtom fuel rest
          let (b, rest) ← evaluateAtom fuel rest
          some (← matchedPart a b, rest)
        | "index" => do
          let (a, rest) ← evaluateAtom fuel rest
          let (b, rest) ← evaluateAtom fuel rest
          some (Text.decimal (((a.findIdx? b.contains).map (· + 1)).getD 0), rest)
        | "substr" => do
          let (a, rest) ← evaluateAtom fuel rest
          let (i, rest) ← evaluateAtom fuel rest
          let (n, rest) ← evaluateAtom fuel rest
          let part := match operandNumber? i, operandNumber? n with
            | some i, some n => if i < 1 || n < 1 then [] else (a.drop (i - 1).toNat).take n.toNat
            | _, _ => []
          some (part, rest)
        | _ => some (word, rest)

end

/-- Print the value of an expression. -/
def expr (c : Call) : Act Nat := do
  let args := if c.args.head? = some ['-', '-'] then c.args.drop 1 else c.args
  if args.isEmpty then c.refuse "missing operand" 2
  else
    match evaluateRank (16 * args.length + 16) 0 args with
    | some (value, []) =>
      outLine value
      return if isNull value then 1 else 0
    | _ => c.refuse "syntax error" 2

end NativeBuild.Tool
