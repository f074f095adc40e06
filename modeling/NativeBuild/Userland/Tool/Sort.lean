import NativeBuild.Userland.Tool.Columns
import NativeBuild.Userland.Fixed

/-!
Putting lines in order, and finding those that are equal.
-/

namespace NativeBuild.Tool

open Shell

/-- How texts are compared: as bytes, by the number at their start, by a number with a point or an
exponent, by a number with a unit, or as versions; without the blanks in front, with letters of both
cases as one, with letters, digits and blanks alone; and in which direction. -/
structure SortStyle where
  numeric : Bool := false
  general : Bool := false
  human : Bool := false
  version : Bool := false
  month : Bool := false
  skipsBlanks : Bool := false
  foldsCase : Bool := false
  dictionary : Bool := false
  printable : Bool := false
  reversed : Bool := false
  deriving DecidableEq

/-- A part of a line that is compared: from a character of a field to a character of a field. -/
structure SortKey where
  field : Nat
  char : Nat
  skipsStart : Bool
  endField : Option Nat
  endChar : Nat
  skipsEnd : Bool
  style : SortStyle

namespace SortStyle

/-- A style with what a letter asks for. -/
def with? (s : SortStyle) (c : Char) : Option SortStyle :=
  match c with
  | 'n' => some { s with numeric := true }
  | 'g' => some { s with general := true }
  | 'h' => some { s with human := true }
  | 'V' => some { s with version := true }
  | 'M' => some { s with month := true }
  | 'b' => some { s with skipsBlanks := true }
  | 'f' => some { s with foldsCase := true }
  | 'd' => some { s with dictionary := true }
  | 'i' => some { s with printable := true }
  | 'r' => some { s with reversed := true }
  | _ => none

/-- A number at the start of a text, as a fraction with a sign. -/
def leadingNumber (text : Raw) : Int × Nat :=
  let text := text.dropWhile fun c => c = ' ' || c = '\t'
  let (negative, body) := match text with
    | '-' :: rest => (true, rest)
    | _ => (false, text)
  let whole := body.takeWhile Text.isDigit
  let part : Raw := match body.drop whole.length with
    | '.' :: rest => rest.takeWhile Text.isDigit
    | _ => []
  let n : Int := Text.decimalValue (whole ++ part)
  (if negative then -n else n, Nat.pow 10 part.length)

/-- The order of two fractions. -/
def compareFractions (a b : Int × Nat) : Ordering :=
  compare (a.1 * b.2) (b.1 * a.2)

/-- A number with an exponent in front of a text, as a rank of its kind and a fraction. -/
def generalNumber (text : Raw) : Nat × (Int × Nat) :=
  match Number.readReal (text.dropWhile isSpace) with
  | some (.finite negative size, _) =>
    (3, (if negative then -(size.top : Int) else size.top, size.bottom))
  | some (.infinite negative, _) => (if negative then 2 else 4, (0, 1))
  | some (.undefined, _) => (1, (0, 1))
  | none => (0, (0, 1))

/-- The rank of the unit behind a number. -/
def unitRank (text : Raw) : Nat :=
  let rest := (text.dropWhile fun c => c = ' ' || c = '\t' || c = '-').dropWhile fun c =>
    Text.isDigit c || c = '.'
  match rest.head? with
  | some c => ((['k', 'M', 'G', 'T', 'P', 'E'].findIdx? fun u =>
      u = c || (u = 'k' && c = 'K')).map (· + 1)).getD 0
  | none => 0

/-- The rank of a month by its name. -/
def monthRank (text : Raw) : Nat :=
  let name := ((text.dropWhile isSpace).take 3).map Char.toUpper
  ((["JAN", "FEB", "MAR", "APR", "MAY", "JUN", "JUL", "AUG", "SEP", "OCT", "NOV", "DEC"].findIdx?
    fun m => m.toList = name).map (· + 1)).getD 0

/-- The order of texts as versions, in at most `fuel` steps: what is no digit as bytes, and digits
as numbers. -/
def compareVersions : Nat → Raw → Raw → Ordering
  | 0, _, _ => .eq
  | fuel + 1, a, b =>
    if a.isEmpty && b.isEmpty then .eq
    else
      let isWord (c : Char) : Bool := !Text.isDigit c
      let rank (c : Char) : Nat :=
        if c = '~' then 0 else if c.isAlpha then c.toNat + 1 else c.toNat + 256
      let words (text : Raw) : List Nat := (text.takeWhile isWord).map rank
      let padded (xs ys : List Nat) : List Nat := xs ++ List.replicate (ys.length - xs.length) 1
      let x := words a
      let y := words b
      match compare (padded x y) (padded y x) with
      | .eq =>
        let a := a.dropWhile isWord
        let b := b.dropWhile isWord
        match compare (Text.decimalValue (a.takeWhile Text.isDigit))
            (Text.decimalValue (b.takeWhile Text.isDigit)) with
        | .eq =>
          if a.isEmpty && b.isEmpty then .eq
          else compareVersions fuel (a.dropWhile Text.isDigit) (b.dropWhile Text.isDigit)
        | order => order
      | order => order

/-- The order of two texts as bytes. -/
def compareBytes (a b : Raw) : Ordering :=
  compare (a.map Char.toNat) (b.map Char.toNat)

/-- The order of two texts in a style, its direction aside. -/
def forward (s : SortStyle) (a b : Raw) : Ordering :=
  let blank (c : Char) : Bool := c = ' ' || c = '\t'
  let prepare (text : Raw) : Raw :=
    let text := if s.skipsBlanks then text.dropWhile blank else text
    let text := if s.dictionary then text.filter fun c => c.isAlphanum || blank c else text
    let text := if s.printable then text.filter fun c => 32 ≤ c.toNat && c.toNat < 127 else text
    if s.foldsCase then text.map Char.toUpper else text
  if s.general then
    let (i, x) := generalNumber a
    let (j, y) := generalNumber b
    match compare i j with
    | .eq => compareFractions x y
    | order => order
  else if s.human then
    let sign (n : Int × Nat) : Int := if n.1 < 0 then -1 else 1
    let x := leadingNumber a
    let y := leadingNumber b
    let rank (n : Int × Nat) (text : Raw) : Int :=
      if n.1 = 0 then 0 else sign n * (unitRank text + 1)
    match compare (rank x a) (rank y b) with
    | .eq => compareFractions x y
    | order => order
  else if s.numeric then compareFractions (leadingNumber a) (leadingNumber b)
  else if s.month then compare (monthRank a) (monthRank b)
  else if s.version then
    let a := prepare a
    let b := prepare b
    compareVersions (a.length + b.length + 1) a b
  else compareBytes (prepare a) (prepare b)

/-- The order of two texts in a style. -/
def order (s : SortStyle) (a b : Raw) : Ordering :=
  if s.reversed then (s.forward a b).swap else s.forward a b

end SortStyle

namespace SortKey

/-- Read one end of a key: a field, a character and letters. -/
def readEnd (text : Raw) (usualChar : Nat) : Option (Nat × Nat × Raw) :=
  let field := text.takeWhile Text.isDigit
  let rest := text.drop field.length
  if field.isEmpty then none
  else
    match rest with
    | '.' :: rest =>
      let char := rest.takeWhile Text.isDigit
      if char.isEmpty then none
      else some (Text.decimalValue field, Text.decimalValue char, rest.drop char.length)
    | _ => some (Text.decimalValue field, usualChar, rest)

/-- Read a key; one without letters is compared as `usual` says. -/
def read? (usual : SortStyle) (text : Raw) : Option SortKey := do
  let (first, last) := Text.cut ',' text
  let (field, char, startLetters) ← readEnd first 1
  let (endField, endChar, endLetters) ← match last with
    | none => some (none, 0, [])
    | some last => (readEnd last 0).map fun (field, char, letters) => (some field, char, letters)
  if field = 0 ∨ char = 0 then none
  let letters := startLetters ++ endLetters
  let own ← (letters.filter (· ≠ 'b')).foldlM SortStyle.with? {}
  let plain := letters.isEmpty
  some
    { field, char, endField, endChar
      skipsStart := startLetters.contains 'b' || (plain && usual.skipsBlanks)
      skipsEnd := endLetters.contains 'b' || (plain && usual.skipsBlanks)
      style := if plain then { usual with skipsBlanks := false } else own }

/-- The places in a line at which a field starts and ends.  Without a mark, the blanks in front of a
field belong to it. -/
def fieldSpan (mark : Option Char) : Nat → Nat → Raw → Nat × Nat
  | 0, start, _ => (start, start)
  | n + 1, start, rest =>
    let length := match mark with
      | some m => (rest.takeWhile (· ≠ m)).length
      | none =>
        let blanks := (rest.takeWhile fun c => c = ' ' || c = '\t').length
        blanks + ((rest.drop blanks).takeWhile fun c => c ≠ ' ' && c ≠ '\t').length
    if n = 0 then (start, start + length)
    else
      let step := length + (if mark.isSome && length < rest.length then 1 else 0)
      if rest.length ≤ length then (start + rest.length, start + rest.length)
      else fieldSpan mark n (start + step) (rest.drop step)

/-- The part of a line that a key compares. -/
def part (key : SortKey) (mark : Option Char) (line : Raw) : Raw :=
  let blanks (place : Nat) : Nat :=
    ((line.drop place).takeWhile fun c => c = ' ' || c = '\t').length
  let start := (fieldSpan mark key.field 0 line).1
  let start := start + (if key.skipsStart then blanks start else 0) + (key.char - 1)
  let stop : Nat := match key.endField with
    | none => line.length
    | some field =>
      let span := fieldSpan mark field 0 line
      if key.endChar = 0 then span.2
      else span.1 + (if key.skipsEnd then blanks span.1 else 0) + key.endChar
  (line.take stop).drop start

end SortKey

/-- The order of two lines by keys, and by the whole lines if those do not decide. -/
def lineOrder (keys : List SortKey) (mark : Option Char) (a b : Raw) : Ordering :=
  keys.foldl
    (fun order key =>
      if order = .eq then key.style.order (key.part mark a) (key.part mark b) else order) .eq

/-- Leave the first of each run of lines that are equal. -/
def firstOfRuns (same : Raw → Raw → Bool) : List Raw → List Raw
  | [] => []
  | a :: rest =>
    match firstOfRuns same rest with
    | b :: more => if same a b then a :: more else a :: b :: more
    | [] => [a]

/-- Sort lines. -/
def sort (c : Call) : Act Nat :=
  let known : OptionSet :=
    { letters := "bcCdfghik:mMno:rRsS:t:T:uVz"
      long := [("ignore-leading-blanks", 'b'), ("dictionary-order", 'd'), ("ignore-case", 'f'),
        ("general-numeric-sort", 'g'), ("human-numeric-sort", 'h'), ("ignore-nonprinting", 'i'),
        ("key", 'k'), ("merge", 'm'), ("month-sort", 'M'), ("numeric-sort", 'n'), ("output", 'o'),
        ("reverse", 'r'), ("stable", 's'), ("field-separator", 't'), ("unique", 'u'),
        ("version-sort", 'V'), ("check", 'c'), ("zero-terminated", 'z')] }
  c.withOptions known 2 fun g => do
    let usual : SortStyle := g.options.foldl (fun s o => (s.with? o.1).getD s) {}
    let keys := (g.values 'k').mapM (SortKey.read? usual)
    let mark : Option Char := match g.value? 't' with
      | some ['\\', '0'] => some (Char.ofNat 0)
      | some (m :: _) => some m
      | _ => none
    match keys with
    | none => c.refuse "invalid field specification" 2
    | some keys =>
      if ((g.value? 't').map fun t => t.length ≠ 1 && t ≠ ['\\', '0']).getD false then
        c.refuse "bad separator" 2
      else
        let stop := if g.has 'z' then Char.ofNat 0 else '\n'
        let (text, status) ← contents c g.operands 2
        if status ≠ 0 then return status
        let ls := match (Text.pieces stop text).reverse with
          | [] :: rest => rest.reverse
          | all => all.reverse
        let whole : SortKey := ⟨1, 1, false, none, 0, false, usual⟩
        let compared := if keys.isEmpty then [whole] else keys
        let byKeys := lineOrder compared mark
        let isPlain := usual = {} || usual = { reversed := true }
        let order (a b : Raw) : Ordering :=
          match byKeys a b with
          | .eq =>
            if g.has 's' || g.has 'u' || (keys.isEmpty && isPlain) then .eq
            else
              let last := SortStyle.compareBytes a b
              if usual.reversed then last.swap else last
          | decided => decided
        if g.has 'c' || g.has 'C' then
          let pairs := ls.zip (ls.drop 1)
          let wrong := pairs.any fun (a, b) =>
            order a b = .gt || (g.has 'u' && byKeys a b = .eq)
          return if wrong then 1 else 0
        else
          let sorted := ls.mergeSort fun a b => order a b ≠ .gt
          let sorted :=
            if g.has 'u' then firstOfRuns (fun a b => byKeys a b = .eq) sorted else sorted
          let shown := sorted.flatMap fun l => l ++ [stop]
          match g.value? 'o' with
          | none =>
            out shown
            return 0
          | some name =>
            let done ← change c name fun p => p.writeFile .anew (rawPath name) shown
            return if done then 0 else 2

/-- What of a line is compared with its neighbours: what is left behind some fields and characters,
up to a number of characters. -/
def comparedPart (g : Given) (line : Raw) : Raw :=
  let count (letter : Char) : Nat := ((g.value? letter).map number).getD 0
  let dropField (line : Raw) : Raw :=
    (line.dropWhile fun c => c = ' ' || c = '\t').dropWhile fun c => c ≠ ' ' && c ≠ '\t'
  let rest := ((List.range (count 'f')).foldl (fun line _ => dropField line) line).drop (count 's')
  let rest := if g.has 'w' then rest.take (count 'w') else rest
  if g.has 'i' then rest.map Char.toLower else rest

/-- The runs of lines whose compared parts are equal. -/
def runsOfLines (same : Raw → Raw → Bool) : List Raw → List (List Raw)
  | [] => []
  | a :: rest =>
    match runsOfLines same rest with
    | (b :: run) :: more => if same a b then (a :: b :: run) :: more else [a] :: (b :: run) :: more
    | _ => [[a]]

/-- Leave one of each run of equal lines, or count them, or leave those of certain runs alone. -/
def uniq (c : Call) : Act Nat :=
  let known : OptionSet :=
    { letters := "cdDuif:s:w:zG::"
      long := [("count", 'c'), ("repeated", 'd'), ("all-repeated", 'D'), ("unique", 'u'),
        ("ignore-case", 'i'), ("skip-fields", 'f'), ("skip-chars", 's'), ("check-chars", 'w'),
        ("group", 'G')] }
  c.withOptions known 1 fun g => do
    let (text, status) ← contents c (g.operands.take 1) 1
    if status ≠ 0 then return status
    let runs := runsOfLines (fun a b => comparedPart g a = comparedPart g b) (lines text)
    let runs := runs.filter fun run =>
      !(g.has 'd' || g.has 'D') || run.length > 1
    let runs := runs.filter fun run => !g.has 'u' || run.length = 1
    let shown :=
      if g.has 'G' then ['\n'].intercalate (runs.map unlines) else runs.flatMap fun run =>
      if g.has 'D' then unlines run
      else if g.has 'c' then
        padLeft 7 (Text.decimal run.length) ++ ' ' :: run.headD [] ++ ['\n']
      else run.headD [] ++ ['\n']
    match g.operands[1]? with
    | some name =>
      let done ← change c name fun p => p.writeFile .anew (rawPath name) shown
      return if done then 0 else 1
    | none =>
      out shown
      return 0

end NativeBuild.Tool
