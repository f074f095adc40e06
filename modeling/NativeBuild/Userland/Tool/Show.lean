import NativeBuild.Userland.Tool.Basic

/-!
Tools that show text as it is, or line by line with something added or the order changed.
-/

namespace NativeBuild.Tool

open Shell

/-- A character as it is shown where all of them are to be visible. -/
def visible (c : Char) : Raw :=
  let low (n : Nat) : Raw :=
    if n < 32 then ['^', Char.ofNat (n + 64)] else if n = 127 then ['^', '?'] else [Char.ofNat n]
  if c = '\n' || c = '\t' then [c]
  else if c.toNat < 128 then low c.toNat
  else 'M' :: '-' :: low (c.toNat - 128)

/-- Show lines with numbers, marks at their ends and visible characters, as options ask for it. -/
def markLines (g : Given) (text : Raw) : Raw :=
  let all := g.has 'A'
  let ends := all || g.has 'E' || g.has 'e'
  let tabs := all || g.has 'T' || g.has 't'
  let controls := all || g.has 'v' || g.has 'e' || g.has 't'
  let shown (line : Raw) : Raw :=
    let line := if controls then line.flatMap visible else line
    if tabs then line.flatMap fun c => if c = '\t' then ['^', 'I'] else [c] else line
  let whole := text.getLast? = some '\n'
  let ls := lines text
  let ls := if g.has 's' then
      (ls.foldl (fun kept l => if l.isEmpty && kept.head? = some [] then kept else l :: kept)
        []).reverse
    else ls
  let step (acc : List Raw × Nat) (item : Raw × Nat) : List Raw × Nat :=
    let (line, k) := item
    let numbered := if g.has 'b' then !line.isEmpty else g.has 'n'
    let front := if numbered then padLeft 6 (Text.decimal (acc.2 + 1)) ++ ['\t'] else []
    let isOpen := k + 1 = ls.length && !whole
    let tail : Raw := if isOpen then [] else if ends then ['$', '\n'] else ['\n']
    ((front ++ shown line ++ tail) :: acc.1, if numbered then acc.2 + 1 else acc.2)
  (ls.zipIdx.foldl step ([], 0)).1.reverse.flatten

/-- Show files one after the other. -/
def cat (c : Call) : Act Nat :=
  let known : OptionSet :=
    { letters := "AbeEnstTuv"
      long := [("show-all", 'A'), ("number-nonblank", 'b'), ("show-ends", 'E'), ("number", 'n'),
        ("squeeze-blank", 's'), ("show-tabs", 'T'), ("show-nonprinting", 'v')] }
  c.withOptions known 1 fun g => do
    if g.options.all (·.1 = 'u') then
      let mut status := 0
      for name in (if g.operands.isEmpty then [['-']] else g.operands) do
        match ← content name with
        | .ok text => out text
        | .error e =>
          c.complain (fileFault name e)
          status := 1
      return status
    else
      let (text, status) ← contents c g.operands 1
      out (markLines g text)
      return status

/-- The records of a text, each with what ends it. -/
def records (text : Raw) : List Raw :=
  let ls := lines text
  if text.getLast? = some '\n' || text.isEmpty then ls.map (· ++ ['\n'])
  else ls.dropLast.map (· ++ ['\n']) ++ [ls.getLastD []]

/-- Show lines in the opposite order. -/
def tac (c : Call) : Act Nat :=
  c.withOptions { letters := "brs:" } 1 fun g => do
    let mut status := 0
    for name in (if g.operands.isEmpty then [['-']] else g.operands) do
      match ← content name with
      | .ok text => out (records text).reverse.flatten
      | .error e =>
        c.complain (fileFault name e)
        status := 1
    return status

/-- Show every line backwards. -/
def rev (c : Call) : Act Nat :=
  c.withOptions { letters := "" } 1 fun g => do
    let (text, status) ← contents c g.operands 1
    let turned := (records text).map fun r =>
      if r.getLast? = some '\n' then r.dropLast.reverse ++ ['\n'] else r.reverse
    out turned.flatten
    return status

/-- Show lines with numbers. -/
def nl (c : Call) : Act Nat :=
  c.withOptions { letters := "b:w:s:v:i:n:h:f:d:l:p" } 1 fun g => do
    let (text, status) ← contents c g.operands 1
    let style := (g.value? 'b').getD ['t']
    let width := ((g.value? 'w').map number).getD 6
    let gap := (g.value? 's').getD ['\t']
    let first := ((g.value? 'v').bind integer?).getD 1
    let step := ((g.value? 'i').bind integer?).getD 1
    let form := (g.value? 'n').getD ['r', 'n']
    let shown (n : Int) : Raw :=
      let digits := Text.signedDecimal n
      if form = ['l', 'n'] then padRight width digits
      else if form = ['r', 'z'] then List.replicate (width - digits.length) '0' ++ digits
      else padLeft width digits
    let mut n := first
    for l in lines text do
      if style = ['a'] || (style = ['t'] && !l.isEmpty) then
        outLine (shown n ++ gap ++ l)
        n := n + step
      else outLine (List.replicate (width + gap.length) ' ' ++ l)
    return status

/-- A line broken into parts of a greatest width, in at most `fuel` parts; at blanks if `atBlanks`.
-/
def foldLine (width : Nat) (atBlanks : Bool) : Nat → Raw → List Raw
  | 0, line => [line]
  | fuel + 1, line =>
    if line.length ≤ width then [line]
    else
      let part := line.take width
      let blank := part.reverse.findIdx? (· = ' ')
      let n := match atBlanks, blank with
        | true, some k => width - k
        | _, _ => width
      line.take n :: foldLine width atBlanks fuel (line.drop n)

/-- Break lines that are too long. -/
def fold (c : Call) : Act Nat :=
  c.withOptions { letters := "bsw:", long := [("width", 'w'), ("spaces", 's'), ("bytes", 'b')] } 1
    fun g => do
    let width := ((g.value? 'w').map number).getD 80
    let (text, status) ← contents c g.operands 1
    let parts := (records text).map fun r =>
      let whole := r.getLast? = some '\n'
      let line := if whole then r.dropLast else r
      let broken := ['\n'].intercalate (foldLine (max width 1) (g.has 's') line.length line)
      if whole then broken ++ ['\n'] else broken
    out parts.flatten
    return status

/-- A line with its tabs replaced by blanks; `column` is the place that has been reached. -/
def expandTabs (stop : Nat) : Nat → Raw → Raw
  | _, [] => []
  | column, c :: rest =>
    if c = '\t' then
      let n := stop - column % stop
      List.replicate n ' ' ++ expandTabs stop (column + n) rest
    else c :: expandTabs stop (if c = '\n' then 0 else column + 1) rest

/-- Replace tabs by blanks. -/
def expand (c : Call) : Act Nat :=
  c.withOptions { letters := "it:", long := [("tabs", 't'), ("initial", 'i')] } 1 fun g => do
    let stop := ((g.value? 't').map number).getD 8
    let (text, status) ← contents c g.operands 1
    out (expandTabs (max stop 1) 0 text)
    return status

/-- A line whose blanks in front are tabs where they can be. -/
def unexpandLine (stop : Nat) (line : Raw) : Raw :=
  let blanks := line.takeWhile fun c => c = ' ' || c = '\t'
  let width := (expandTabs stop 0 blanks).length
  List.replicate (width / stop) '\t' ++ List.replicate (width % stop) ' ' ++ line.drop blanks.length

/-- Replace blanks in front of lines by tabs. -/
def unexpand (c : Call) : Act Nat :=
  c.withOptions { letters := "at:" } 1 fun g => do
    let stop := ((g.value? 't').map number).getD 8
    let (text, status) ← contents c g.operands 1
    out ((records text).map (unexpandLine (max stop 1))).flatten
    return status

/-- How many lines or bytes a tool shows: a number of them, all but a number of them, or all from a
given one on. -/
inductive Share where
  | some (n : Nat)
  | allBut (n : Nat)
  | onFrom (n : Nat)

/-- The front part of some items by a share of them. -/
def Share.front {α : Type} (share : Share) (items : List α) : List α :=
  match share with
  | .some n => items.take n
  | .allBut n => items.take (items.length - n)
  | .onFrom n => items.take n

/-- The back part of some items by a share of them. -/
def Share.back {α : Type} (share : Share) (items : List α) : List α :=
  match share with
  | .some n => items.drop (items.length - n)
  | .allBut n => items.drop (items.length - n)
  | .onFrom n => items.drop (n - 1)

/-- The share that an argument gives. -/
def Share.read? (isFront : Bool) (arg : Raw) : Option Share :=
  match arg with
  | '+' :: n => (sized? n).map fun n => if isFront then .some n else .onFrom n
  | '-' :: n => (sized? n).map fun n => if isFront then .allBut n else .some n
  | n => (sized? n).map .some

/-- Old-style arguments that are a number behind a sign, as options. -/
def spellShare (args : List Raw) : List Raw :=
  match args with
  | ('-' :: d :: more) :: rest =>
    if Text.isDigit d then
      let digits := (d :: more).takeWhile Text.isDigit
      let letters := (d :: more).drop digits.length
      if letters.contains 'c' then ['-', 'c'] :: digits :: rest
      else ['-', 'n'] :: digits :: rest
    else args
  | ('+' :: d :: more) :: rest =>
    if Text.isDigit d then ['-', 'n'] :: ('+' :: d :: more) :: rest else args
  | _ => args

/-- The heading in front of the part of one of several files. -/
def fileHeading (isFirst : Bool) (name : Raw) : Raw :=
  (if isFirst then [] else ['\n']) ++ rawString "==> " ++
    (if name = ['-'] then rawString "standard input" else name) ++ rawString " <==\n"

/-- Show the first or last parts of files. -/
def ends (isFront : Bool) (c : Call) : Act Nat :=
  let known : OptionSet :=
    { letters := "n:c:qvfFs:z"
      long := [("lines", 'n'), ("bytes", 'c'), ("quiet", 'q'), ("silent", 'q'), ("verbose", 'v')] }
  let c := { c with args := spellShare c.args }
  c.withOptions known 1 fun g => do
    let byBytes := g.last? ['n', 'c'] = some 'c'
    let share := match g.last? ['n', 'c'] with
      | some letter => (g.value? letter).bind (Share.read? isFront)
      | none => some (.some 10)
    match share with
    | none => c.refuse "invalid number" 1
    | some share =>
      let part (text : Raw) : Raw :=
        let pick {α : Type} (items : List α) : List α :=
          if isFront then share.front items else share.back items
        if byBytes then pick text else (pick (records text)).flatten
      let headed := g.last? ['q', 'v'] = some 'v' ||
        (g.operands.length > 1 && g.last? ['q', 'v'] ≠ some 'q')
      let mut status := 0
      let mut isFirst := true
      for name in (if g.operands.isEmpty then [['-']] else g.operands) do
        if name = ['-'] then
          let source := (← get).pending 0
          let shown := part source.text
          if headed then out (fileHeading isFirst name)
          out shown
          let left := if isFront && source.isFile then source.text.drop shown.length else []
          modify fun p => p.leave 0 left
          isFirst := false
        else
          match ← content name with
          | .ok text =>
            if headed then out (fileHeading isFirst name)
            out (part text)
            isFirst := false
          | .error e =>
            c.complain
              (rawString "cannot open '" ++ name ++ rawString ("' for reading: " ++ e.reason))
            status := 1
      return status

/-- What is counted in a text. -/
structure Counts where
  lines : Nat := 0
  words : Nat := 0
  bytes : Nat := 0
  longest : Nat := 0

namespace Counts

/-- The counts of a text.  White space as ASCII has it stands between words. -/
def of (text : Raw) : Counts :=
  let step (acc : Nat × Bool) (c : Char) : Nat × Bool :=
    if isSpace c then (acc.1, false) else if acc.2 then acc else (acc.1 + 1, true)
  { lines := text.count '\n'
    words := (text.foldl step (0, false)).1
    bytes := text.length
    longest := (Shell.lines text).foldl (fun n l => max n (expandTabs 8 0 l).length) 0 }

/-- The counts of two texts together. -/
def add (a b : Counts) : Counts :=
  ⟨a.lines + b.lines, a.words + b.words, a.bytes + b.bytes, max a.longest b.longest⟩

/-- The counts that are asked for, in order. -/
def shown (g : Given) (k : Counts) : List Nat :=
  let usual := g.options.all (·.1 = 'T')
  (if usual || g.has 'l' then [k.lines] else []) ++
    (if usual || g.has 'w' then [k.words] else []) ++
    (if g.has 'm' then [k.bytes] else []) ++ (if usual || g.has 'c' then [k.bytes] else []) ++
    if g.has 'L' then [k.longest] else []

end Counts

/-- Count lines, words and bytes. -/
def wc (c : Call) : Act Nat :=
  let known : OptionSet :=
    { letters := "lwcmLT:"
      long := [("lines", 'l'), ("words", 'w'), ("bytes", 'c'), ("chars", 'm'),
        ("max-line-length", 'L'), ("total", 'T')] }
  c.withOptions known 1 fun g => do
    let names := if g.operands.isEmpty then [['-']] else g.operands
    let p ← get
    let sizes : List (Option Nat) := names.map fun name =>
      if name = ['-'] then
        let source := p.pending 0
        if source.isFile && p.handles.lookup 0 ≠ some .nothing then some source.text.length
        else none
      else
        match p.files.find p.here true (rawPath name) with
        | .ok (_, .file bytes _) => some bytes.length
        | .ok _ => none
        | .error _ => some 0
    let single := names.length = 1 && (Counts.shown g {}).length = 1
    let total := sizes.foldl (fun n size => n + size.getD 0) 0
    let width :=
      if single then 1
      else max (Text.decimal total).length (if sizes.any Option.isNone then 7 else 1)
    let report (k : Counts) (name : Raw) : Act Unit :=
      let numbers := (Counts.shown g k).map fun n => padLeft width (Text.decimal n)
      outLine (spaced (if name.isEmpty then numbers else numbers ++ [name]))
    let mut status := 0
    let mut sum : Counts := {}
    for name in names do
      match ← content name with
      | .ok text =>
        let k := Counts.of text
        sum := sum.add k
        report k (if g.operands.isEmpty then [] else name)
      | .error e =>
        c.complain (fileFault name e)
        if e = .isDirectory then report {} name
        status := 1
    let totals := String.ofList ((g.value? 'T').getD "auto".toList)
    let isTotal := totals = "always" || totals = "only" || (names.length > 1 && totals ≠ "never")
    if isTotal then report sum (if totals = "only" then [] else rawString "total")
    return status

/-- Write the input to files and pass it on. -/
def tee (c : Call) : Act Nat :=
  c.withOptions { letters := "aip", long := [("append", 'a'), ("ignore-interrupts", 'i')] } 1
    fun g => do
    let text ← takeInput
    out text
    let mut status := 0
    for name in g.operands do
      let mode : Process.WriteMode := if g.has 'a' then .append else .anew
      if !(← change c name fun p => p.writeFile mode (rawPath name) text) then status := 1
    return status

end NativeBuild.Tool
