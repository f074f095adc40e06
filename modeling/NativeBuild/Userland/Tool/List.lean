import NativeBuild.Userland.Shell.Pattern
import NativeBuild.Userland.Tool.Files

/-!
Tools that list directories and say what stands where.
-/

namespace NativeBuild.Tool

open Shell
open Calendar (Moment)

/-- Whether a text matches a pattern of names. -/
def nameMatches (pattern text : Raw) : Bool :=
  (Pattern.of (Language.rich.globStyle false false) (pattern.map (·, false))).accepts text

/-- A file in a listing. -/
structure Listed where
  name : Raw
  path : Raw
  loc : Location
  entry : Entry

namespace Listed

/-- The number of bytes of a file. -/
def size (l : Listed) : Nat :=
  match l.entry with
  | .file bytes _ => bytes.length
  | .directory => 4096
  | .link target => byteLength target.chars
  | .program _ => Files.programBytes.length
  | _ => 0

/-- The mark that shows what kind of file it is. -/
def mark (l : Listed) (slashOnly : Bool) : Raw :=
  match l.entry with
  | .directory => ['/']
  | .file _ true => if slashOnly then [] else ['*']
  | .program _ => if slashOnly then [] else ['*']
  | .link _ => if slashOnly then [] else ['@']
  | .here => if slashOnly then [] else ['@']
  | .pipe => if slashOnly then [] else ['|']
  | _ => []

end Listed

/-- A time, in nanoseconds since the start of the machine, as a format shows it. -/
def timeText (time : Int) (format : Raw) : Raw :=
  (Moment.ofTime time).shownBy format

/-- Put files in the order that options ask for. -/
def orderListed (g : Given) (files : Files) (ls : List Listed) : List Listed :=
  if g.has 'U' || g.has 'f' then ls
  else
    let byName := ls.mergeSort fun a b => inOrder a.name b.name
    let sorted := match g.last? ['t', 'S', 'X', 'v'] with
      | some 't' => byName.mergeSort fun a b => files.changed a.loc ≥ files.changed b.loc
      | some 'S' => byName.mergeSort fun a b => a.size ≥ b.size
      | some 'X' => byName.mergeSort fun a b =>
          let ending (l : Listed) : Raw := if l.name.contains '.' then
              (l.name.reverse.takeWhile (· ≠ '.')).reverse else []
          inOrder (ending a) (ending b)
      | _ => byName
    let sorted := if g.has 'r' then sorted.reverse else sorted
    if g.has '3' then
      sorted.filter (·.entry = .directory) ++ sorted.filter (·.entry ≠ .directory)
    else sorted

/-- How the names in a listing are laid out: each in a line, with commas between them, or in columns
that are filled downwards or across. -/
inductive Arrangement where
  | lines
  | commas
  | down
  | across
  deriving DecidableEq

/-- How options ask for names to be laid out. -/
def Arrangement.of (g : Given) : Arrangement :=
  match g.last? ['1', 'm', 'C', 'x', 'l', 'n', 'g', 'o'] with
  | some 'm' => .commas
  | some 'C' => .down
  | some 'x' => .across
  | _ => .lines

/-- The number of characters in a line of columns. -/
def lineWidth : Nat := 80

/-- The widths of columns for names of given lengths, if there are to be so many columns. -/
def columnWidths (across : Bool) (lengths : List Nat) (columns : Nat) : List Nat :=
  let rows := (lengths.length + columns - 1) / columns
  (List.range columns).map fun column =>
    let own := lengths.zipIdx.filter fun item =>
      (if across then item.2 % columns else item.2 / rows) = column
    own.foldl (fun width item => max width item.1) 0

/-- The blanks and tabs that lead from one place in a line to another, in at most `fuel` steps. -/
def indent : Nat → Nat → Nat → Raw
  | 0, _, _ => []
  | fuel + 1, start, stop =>
    if stop ≤ start then []
    else if (start + 1) / 8 < stop / 8 then '\t' :: indent fuel (start + 8 - start % 8) stop
    else ' ' :: indent fuel (start + 1) stop

/-- Names in as many columns as fit into a line, two blanks apart. -/
def inColumns (across : Bool) (names : List Raw) : Raw :=
  let lengths := names.map List.length
  let fits (columns : Nat) : Bool :=
    let widths := columnWidths across lengths columns
    let used := widths.zipIdx.map fun item => if item.2 + 1 = columns then item.1 else item.1 + 2
    used.foldl (· + ·) 0 < lineWidth
  let columns := ((List.range' 1 names.length).reverse.find? fits).getD 1
  let widths := columnWidths across lengths columns
  let rows := (names.length + columns - 1) / columns
  let name? (row column : Nat) : Option Raw :=
    if columns ≤ column then none
    else names[if across then row * columns + column else column * rows + row]?
  let step (row : Nat) (acc : Raw × Nat) (column : Nat) : Raw × Nat :=
    match name? row column with
    | none => acc
    | some name =>
      let place := acc.2 + name.length
      let next := (widths.take (column + 1)).foldl (fun n width => n + (width + 2)) 0
      if (name? row (column + 1)).isNone then (acc.1 ++ name, place)
      else (acc.1 ++ name ++ indent next place next, next)
  unlines ((List.range rows).map fun row => ((List.range columns).foldl (step row) ([], 0)).1)

/-- Names with commas between them, in lines that are not too long. -/
def withCommas (names : List Raw) : Raw :=
  let step (acc : Raw × Nat) (name : Raw) : Raw × Nat :=
    let (text, place) := acc
    if text.isEmpty then (name.reverse, name.length)
    else if place + name.length + 2 < lineWidth then
      (name.reverse ++ ' ' :: ',' :: text, place + name.length + 2)
    else (name.reverse ++ '\n' :: ',' :: text, name.length)
  (names.foldl step ([], 0)).1.reverse ++ ['\n']

/-- The number of a file: names of one file have the same one. -/
def fileNumber (files : Files) (loc : Location) : Nat :=
  let first := (files.namesOf loc).foldl
    (fun best other => if inOrder (placeText other) (placeText best) then other else best) loc
  100000 + (files.entries.findIdx? fun item => item.1 = first).getD 0

/-- The lines of a listing. -/
def listingText (g : Given) (p : Process) (ls : List Listed) (total : Bool) : Raw :=
  let blocks (l : Listed) : Nat := (l.size + 4095) / 4096 * 4
  let blockWidth := ls.foldl (fun n l => max n (Text.decimal (blocks l)).length) 1
  let allBlocks := ls.foldl (fun n l => n + blocks l) 0
  let shownName (l : Listed) : Raw :=
    let name :=
      if g.has 'Q' then '"' :: (l.name.flatMap fun c => if c = '"' then ['\\', c] else [c]) ++ ['"']
      else if g.has 'b' then
        l.name.flatMap fun c => if c = ' ' || c = '\\' then ['\\', c] else [c]
      else l.name
    let name :=
      if g.has 's' then padLeft blockWidth (Text.decimal (blocks l)) ++ ' ' :: name else name
    let name := if g.has 'i' then Text.decimal (fileNumber p.files l.loc) ++ ' ' :: name else name
    if g.has 'F' then name ++ l.mark false
    else if g.has '4' then name ++ (l.mark false).filter (· ≠ '*')
    else if g.has 'p' then name ++ l.mark true
    else name
  if g.has 'l' || g.has 'n' || g.has 'g' || g.has 'o' then
    let links (l : Listed) : Nat := (p.files.namesOf l.loc).length
    let width (value : Listed → Nat) : Nat :=
      ls.foldl (fun n l => max n (Text.decimal (value l)).length) 1
    let one := if g.has 'n' then "0 " else "root "
    let who := (if g.has 'g' then "" else one) ++ if g.has 'o' || g.has 'G' then "" else one
    let timeFormat : Raw := match (g.value? '5').map String.ofList with
      | some "full-iso" => "%F %T.%N %z".toList
      | some "long-iso" => "%F %H:%M".toList
      | some "iso" => "%m-%d %H:%M".toList
      | some text => if text.front = '+' then text.toList.drop 1 else "%b %e %H:%M".toList
      | none => "%b %e %H:%M".toList
    let row (l : Listed) : Raw :=
      let target : Raw := match l.entry with
        | .link t => rawString " -> " ++ rawText t.chars
        | _ => []
      modeText l.entry (p.files.mode l.loc l.entry) ++ ' ' ::
        padLeft (width links) (Text.decimal (links l)) ++ ' ' :: rawString who ++
        padLeft (width Listed.size) (Text.decimal l.size) ++ ' ' ::
        timeText (p.files.changed l.loc) timeFormat ++ ' ' :: shownName l ++ target
    (if total then rawString "total " ++ Text.decimal allBlocks ++ ['\n'] else []) ++
      unlines (ls.map row)
  else if ls.isEmpty then []
  else
    (if total && g.has 's' then rawString "total " ++ Text.decimal allBlocks ++ ['\n'] else []) ++
    if g.has '0' then ls.flatMap fun l => shownName l ++ [Char.ofNat 0]
    else match Arrangement.of g with
    | .commas => withCommas (ls.map shownName)
    | .down => inColumns false (ls.map shownName)
    | .across => inColumns true (ls.map shownName)
    | .lines => unlines (ls.map shownName)

/-- The files in a directory, those that options hide left out. -/
def inDirectory (g : Given) (p : Process) (path : Raw) : List Listed :=
  match p.files.find p.here true (rawPath path) with
  | .ok (loc, .directory) =>
    let base := if path.getLast? = some '/' then path else path ++ ['/']
    let inside := (p.files.inside loc).map fun (n, e) =>
      (⟨rawText n, base ++ rawText n, loc ++ [n], e⟩ : Listed)
    let all := g.has 'a' || g.has 'f'
    let fits (letter : Char) (l : Listed) : Bool := (g.values letter).any (nameMatches · l.name)
    let shown := if all || g.has 'A' then inside
      else inside.filter fun l => l.name.head? ≠ some '.' && !fits '2' l
    let shown := shown.filter fun l =>
      !fits 'I' l && !(g.has 'B' && l.name.getLast? = some '~')
    let selves : List Listed := if all then
        [⟨['.'], path, loc, .directory⟩, ⟨['.', '.'], path, loc.dropLast, .directory⟩]
      else []
    orderListed g p.files (selves ++ shown)
  | _ => []

/-- The listing of a directory, and of those in it if asked to, each with its path; in at most
`fuel` levels. -/
def listingsOf (g : Given) (p : Process) : Nat → Raw → List (Raw × Raw)
  | 0, _ => []
  | fuel + 1, path =>
    let ls := inDirectory g p path
    let below := if g.has 'R' then
        ls.flatMap fun l =>
          if l.entry = .directory && l.name ≠ ['.'] && l.name ≠ ['.', '.'] then
            listingsOf g p fuel l.path
          else []
      else []
    (path, listingText g p ls true) :: below

/-- List directories and files. -/
def ls (c : Call) : Act Nat :=
  let known : OptionSet :=
    { letters := "aAbBcCdfFgGhHiI:klLmnNopqQrRsStT:uUvw:xX1ZD::2:345:0"
      long := [("all", 'a'), ("almost-all", 'A'), ("directory", 'd'), ("classify", 'F'),
        ("recursive", 'R'), ("reverse", 'r'), ("color", 'D'), ("human-readable", 'h'),
        ("size", 's'),
        ("inode", 'i'), ("quote-name", 'Q'), ("sort", 'D'), ("format", 'D'), ("ignore", 'I'),
        ("hide", '2'), ("group-directories-first", '3'), ("file-type", '4'), ("time-style", '5'),
        ("zero", '0'), ("literal", 'N'), ("escape", 'b'), ("ignore-backups", 'B'),
        ("no-group", 'G'), ("numeric-uid-gid", 'n'), ("dereference", 'L'), ("kibibytes", 'k')] }
  c.withOptions known 2 fun g => do
    let p ← get
    let names := if g.operands.isEmpty then [['.']] else g.operands
    let follows := !(g.has 'd' || g.has 'l' || g.has 'F') || g.has 'L' || g.has 'H'
    let mut status := 0
    let mut plain : List Listed := []
    let mut dirs : List Listed := []
    for name in names do
      match p.files.find p.here false (rawPath name) with
      | .error e =>
        c.complain (rawString "cannot access '" ++ name ++ rawString ("': " ++ e.reason))
        status := 2
      | .ok (loc, e) =>
        let (loc, e) := if follows then (p.entryAt true name).getD (loc, e) else (loc, e)
        if e = .directory && !g.has 'd' then dirs := ⟨name, name, loc, e⟩ :: dirs
        else plain := ⟨name, name, loc, e⟩ :: plain
    let files := orderListed g p.files plain.reverse
    let headed := names.length > 1 || g.has 'R'
    let listings := (orderListed g p.files dirs.reverse).flatMap fun d => listingsOf g p 100 d.path
    let blocks := listings.map fun (path, text) =>
      (if headed then path ++ [':', '\n'] else []) ++ text
    let blocks := if files.isEmpty then blocks else listingText g p files false :: blocks
    out (['\n'].intercalate blocks)
    return status

/-- The path of a place that a path leads to; with `missing`, what is not there may be at its end.
-/
def finalPlace (p : Process) (path : Raw) (missing : Nat) : Option Location :=
  match p.files.locate p.here true (rawPath path) with
  | .ok (.entry loc _) => some loc
  | .ok (.free dir name) => if missing = 0 then none else some (dir ++ [name])
  | .error _ =>
    if missing < 2 then none
    else
      let names := (rawPath path).names.filter (· ≠ ['.'])
      let start : Location := if path.head? = some '/' then [] else p.here
      some (names.foldl
        (fun loc name => if name = ['.', '.'] then loc.dropLast else loc ++ [name]) start)

/-- Print where links lead. -/
def readlink (c : Call) : Act Nat :=
  let known : OptionSet :=
    { letters := "femnqsvz"
      long := [("canonicalize", 'f'), ("canonicalize-existing", 'e'), ("canonicalize-missing", 'm'),
        ("no-newline", 'n'), ("zero", 'z')] }
  c.withOptions known 1 fun g => do
    if g.operands.isEmpty then c.refuse "missing operand" 1
    else
      let p ← get
      let mut status := 0
      for name in g.operands do
        let found : Option Raw :=
          match g.last? ['f', 'e', 'm'] with
          | some 'f' => (finalPlace p name 1).map placeText
          | some 'e' => (finalPlace p name 0).map placeText
          | some _ => (finalPlace p name 2).map placeText
          | none =>
            match p.files.find p.here false (rawPath name) with
            | .ok (_, .link target) => some (rawText target.chars)
            | .ok (_, .here) => some (placeText p.here)
            | _ => none
        match found with
        | some text => out (text ++ if g.has 'n' && g.operands.length = 1 then [] else ['\n'])
        | none => status := 1
      return status

/-- The path from one place to another. -/
def relativePath (base target : Location) : Raw :=
  let shared := ((base.zip target).takeWhile fun pair => pair.1 = pair.2).length
  let names := List.replicate (base.length - shared) ['.', '.'] ++ target.drop shared
  if names.isEmpty then ['.'] else rawText (['/'].intercalate names)

/-- Print the paths of files without links, dots and what is twice in them. -/
def realpath (c : Call) : Act Nat :=
  let known : OptionSet :=
    { letters := "emLPqszR:B:"
      long := [("canonicalize-existing", 'e'), ("canonicalize-missing", 'm'), ("no-symlinks", 's'),
        ("strip", 's'), ("relative-to", 'R'), ("relative-base", 'B'), ("quiet", 'q')] }
  c.withOptions known 1 fun g => do
    if g.operands.isEmpty then c.refuse "missing operand" 1
    else
      let p ← get
      let rule := match g.last? ['e', 'm'] with
        | some 'e' => 0
        | some _ => 2
        | none => 1
      let base := (g.value? 'R').bind fun path => finalPlace p path 1
      let mut status := 0
      for name in g.operands do
        match finalPlace p name rule with
        | some loc =>
          outLine (match base with
            | some base => relativePath base loc
            | none => placeText loc)
        | none =>
          c.complain (fileFault name .notFound)
          status := 1
      return status

/-- What a format shows of a file, in at most `fuel` steps. -/
def statText (p : Process) (l : Listed) : Nat → Raw → Raw
  | 0, _ => []
  | _, [] => []
  | fuel + 1, '%' :: c :: rest =>
    let mode := p.files.mode l.loc l.entry
    let kind : String := match l.entry with
      | .directory => "directory"
      | .link _ => "symbolic link"
      | .here => "symbolic link"
      | .pipe => "fifo"
      | .nothing => "character special file"
      | .zeros => "character special file"
      | _ => if l.size = 0 then "regular empty file" else "regular file"
    let shown : Raw := match c with
      | 'n' => l.path
      | 'N' => '\'' :: l.path ++ ['\'']
      | 's' => Text.decimal l.size
      | 'a' => Text.digits 8 mode
      | 'A' => modeText l.entry mode
      | 'F' => rawString kind
      | 'U' => rawString "root"
      | 'G' => rawString "root"
      | 'u' => ['0']
      | 'g' => ['0']
      | 'h' => Text.decimal (p.files.namesOf l.loc).length
      | 'Y' => timeText (p.files.changed l.loc) "%s".toList
      | 'y' => timeText (p.files.changed l.loc) "%F %T.%N %z".toList
      | '%' => ['%']
      | _ => ['?']
    shown ++ statText p l fuel rest
  | fuel + 1, c :: rest => c :: statText p l fuel rest

/-- Say what is known of files. -/
def stat (c : Call) : Act Nat :=
  let known : OptionSet :=
    { letters := "Lfc:tP:", long := [("format", 'c'), ("printf", 'P'), ("dereference", 'L')] }
  c.withOptions known 1 fun g => do
    if g.operands.isEmpty then c.refuse "missing operand" 1
    else
      let p ← get
      let mut status := 0
      for name in g.operands do
        match p.files.find p.here (g.has 'L') (rawPath name) with
        | .error e =>
          c.complain (fileFault name e)
          status := 1
        | .ok (loc, e) =>
          let shown (format : Raw) : Raw :=
            statText p ⟨name, name, loc, e⟩ (format.length + 1) format
          match g.value? 'P' with
          | some format => out (shown (unescape Dialect.program.format format).1)
          | none => outLine (shown ((g.value? 'c').getD "  File: %n\n  Size: %s\n".toList))
      return status

/-- Print the time. -/
def date (c : Call) : Act Nat :=
  let known : OptionSet :=
    { letters := "d:r:uRI::s:"
      long := [("date", 'd'), ("reference", 'r'), ("utc", 'u'), ("universal", 'u'),
        ("rfc-email", 'R'),
        ("iso-8601", 'I')] }
  c.withOptions known 1 fun g => do
    let p ← get
    let now : Int := p.world.clock
    let time : Option Int :=
      match g.last? ['d', 'r'] with
      | some 'd' => timeOf? now ((g.value? 'd').getD [])
      | some _ => (p.entryAt true ((g.value? 'r').getD [])).map fun (loc, _) => p.files.changed loc
      | none => some now
    let format : Raw := match g.operands with
      | ('+' :: format) :: _ => format
      | _ =>
        if g.has 'R' then "%a, %d %b %Y %T %z".toList
        else if g.has 'I' then
          match String.ofList ((g.value? 'I').getD []) with
          | "hours" => "%FT%H%:z".toList
          | "minutes" => "%FT%H:%M%:z".toList
          | "seconds" => "%FT%T%:z".toList
          | "ns" => "%FT%T,%N%:z".toList
          | _ => "%F".toList
        else "%a %b %e %H:%M:%S %Z %Y".toList
    match time with
    | some time =>
      outLine (timeText time format)
      return 0
    | none => c.refuse "invalid date" 1

end NativeBuild.Tool
