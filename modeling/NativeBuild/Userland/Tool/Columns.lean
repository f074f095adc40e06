import NativeBuild.Userland.Tool.Show

/-!
Tools that take lines apart into fields and characters, or put lines of several files together.
-/

namespace NativeBuild.Tool

open Shell

/-- A list of ranges of places, each from a first to a last one, if it has one. -/
abbrev Places := List (Nat × Option Nat)

namespace Places

/-- Read one range of places. -/
def readRange (text : Raw) : Option (Nat × Option Nat) :=
  match Text.cut '-' text with
  | (a, none) => (Text.decimal? a).map fun n => (n, some n)
  | (a, some b) =>
    if a.isEmpty && b.isEmpty then none
    else do
      let first ← if a.isEmpty then some 1 else Text.decimal? a
      let last ← if b.isEmpty then some none else (Text.decimal? b).map some
      some (first, last)

/-- Read a list of places; none is zero, and no range goes down. -/
def read? (text : Raw) : Option Places := do
  let text := text.map fun c => if c = ' ' || c = '\t' then ',' else c
  let ranges ← (Text.pieces ',' text).mapM readRange
  if ranges.all fun r => r.1 ≠ 0 && (r.2.all (r.1 ≤ ·)) then some ranges else none

/-- Whether a place, counted from one, is in a list. -/
def has (places : Places) (k : Nat) : Bool :=
  places.any fun r => r.1 ≤ k && r.2.all (k ≤ ·)

/-- The items at places of a list, or at all others. -/
def pick {α : Type} (places : Places) (others : Bool) (items : List α) : List α :=
  (items.zipIdx.filter fun item => places.has (item.2 + 1) != others).map Prod.fst

end Places

/-- Show fields or characters of each line. -/
def cut (c : Call) : Act Nat :=
  let known : OptionSet :=
    { letters := "b:c:d:f:nsCO:z"
      long := [("bytes", 'b'), ("characters", 'c'), ("delimiter", 'd'), ("fields", 'f'),
        ("only-delimited", 's'), ("complement", 'C'), ("output-delimiter", 'O')] }
  c.withOptions known 1 fun g => do
    let kinds := ['b', 'c', 'f'].filter g.has
    match kinds with
    | [kind] =>
      match Places.read? ((g.value? kind).getD []) with
      | none => c.refuse "invalid field range" 1
      | some places =>
        let delimiter := (g.value? 'd').getD ['\t']
        if delimiter.length > 1 || (kind ≠ 'f' && (g.has 'd' || g.has 's')) then
          c.refuse "the delimiter must be a single character" 1
        else
          let mark := delimiter.headD (Char.ofNat 0)
          let joint := (g.value? 'O').getD (if kind = 'f' then [mark] else [])
          let (text, status) ← contents c g.operands 1
          for l in lines text do
            if kind = 'f' then
              if l.contains mark then
                outLine (joint.intercalate (places.pick (g.has 'C') (Text.pieces mark l)))
              else if !g.has 's' then outLine l
            else if joint.isEmpty then outLine (places.pick (g.has 'C') l)
            else
              let parts := places.map fun r => Places.pick [r] false l
              outLine (joint.intercalate (parts.filter fun part => !part.isEmpty))
          return status
    | _ => c.refuse "you must specify a list of bytes, characters, or fields" 1

/-- The characters of a list of delimiters, with escapes resolved. -/
def delimiters : Raw → List Raw
  | [] => []
  | '\\' :: 'n' :: rest => ['\n'] :: delimiters rest
  | '\\' :: 't' :: rest => ['\t'] :: delimiters rest
  | '\\' :: '0' :: rest => [] :: delimiters rest
  | '\\' :: c :: rest => [c] :: delimiters rest
  | c :: rest => [c] :: delimiters rest

/-- Texts with delimiters between them, which are used in turn. -/
def joinInTurn (marks : List Raw) : Nat → List Raw → Raw
  | _, [] => []
  | _, [text] => text
  | k, text :: rest => text ++ (marks[k % marks.length]?).getD [] ++ joinInTurn marks (k + 1) rest

/-- The input dealt out in turn to as many readers as name it; other files as they are. -/
def columnsOf (c : Call) (names : List Raw) : Act (List (List Raw) × Nat) := do
  let mut columns : List (List Raw) := []
  let mut status := 0
  let dashes := (names.filter (· = ['-'])).length
  let mut input : List Raw := []
  if dashes ≠ 0 then input := lines (← takeInput)
  let mut turn := 0
  for name in names do
    if name = ['-'] then
      let k := turn
      let dealt := input.zipIdx.filter fun item => item.2 % dashes = k
      columns := dealt.map Prod.fst :: columns
      turn := turn + 1
    else
      match ← content name with
      | .ok text => columns := lines text :: columns
      | .error e =>
        c.complain (fileFault name e)
        status := 1
  return (columns.reverse, status)

/-- Put the lines of files side by side, or those of each file into one. -/
def paste (c : Call) : Act Nat :=
  c.withOptions { letters := "d:sz", long := [("delimiters", 'd'), ("serial", 's')] } 1 fun g => do
    let marks := delimiters ((g.value? 'd').getD ['\t'])
    let marks := if marks.isEmpty then [[]] else marks
    let (columns, status) ← columnsOf c (if g.operands.isEmpty then [['-']] else g.operands)
    if status ≠ 0 then return status
    if g.has 's' then
      for column in columns do outLine (joinInTurn marks 0 column)
    else
      let height := columns.foldl (fun n column => max n column.length) 0
      for k in List.range height do
        outLine (joinInTurn marks 0 (columns.map fun column => (column[k]?).getD []))
    return 0

/-- The lines of two sorted lists in order, each with whether the first and the second list have it;
in at most `fuel` steps. -/
def mergeLines : Nat → List Raw → List Raw → List (Raw × Bool × Bool)
  | 0, _, _ => []
  | _, [], bs => bs.map fun b => (b, false, true)
  | _, as, [] => as.map fun a => (a, true, false)
  | fuel + 1, a :: as, b :: bs =>
    if a = b then (a, true, true) :: mergeLines fuel as bs
    else if inOrder a b then (a, true, false) :: mergeLines fuel as (b :: bs)
    else (b, false, true) :: mergeLines fuel (a :: as) bs

/-- Compare two sorted files line by line. -/
def comm (c : Call) : Act Nat :=
  c.withOptions { letters := "123z" } 1 fun g => do
    match g.operands with
    | [a, b] =>
      match ← content a, ← content b with
      | .ok x, .ok y =>
        let xs := lines x
        let ys := lines y
        let gap (k : Char) : Raw := if g.has k then [] else ['\t']
        for (line, inFirst, inSecond) in mergeLines (xs.length + ys.length + 1) xs ys do
          if inFirst && inSecond then
            if !g.has '3' then outLine (gap '1' ++ gap '2' ++ line)
          else if inFirst then
            if !g.has '1' then outLine line
          else if !g.has '2' then outLine (gap '1' ++ line)
        return 0
      | .error e, _ => c.refuse (e.reason) 1
      | _, .error e => c.refuse (e.reason) 1
    | _ => c.refuse "missing operand" 1

/-- The fields of a line: between marks, or between blanks. -/
def fieldsOfLine (mark : Option Char) (line : Raw) : List Raw :=
  match mark with
  | some m => Text.pieces m line
  | none => (Text.pieces ' ' (line.map fun c => if c = '\t' then ' ' else c)).filter fun f =>
      !f.isEmpty

/-- A line that is joined: its key, all of its fields, and those but the key. -/
structure Keyed where
  key : Raw
  fields : List Raw
  others : List Raw

/-- Lines of two files in the order of their keys: pairs of lines with one key, and lines that have
no partner; in at most `fuel` steps. -/
def pairUp : Nat → List Keyed → List Keyed → List (Option Keyed × Option Keyed)
  | 0, _, _ => []
  | _, [], bs => bs.map fun b => (none, some b)
  | _, as, [] => as.map fun a => (some a, none)
  | fuel + 1, a :: as, b :: bs =>
    if a.key = b.key then
      let firsts := (a :: as).takeWhile (·.key = a.key)
      let seconds := (b :: bs).takeWhile (·.key = b.key)
      firsts.flatMap (fun x => seconds.map fun y => (some x, some y)) ++
        pairUp fuel ((a :: as).drop firsts.length) ((b :: bs).drop seconds.length)
    else if inOrder a.key b.key then (some a, none) :: pairUp fuel as (b :: bs)
    else (none, some b) :: pairUp fuel (a :: as) bs

/-- Join the lines of two files that agree in a field. -/
def join (c : Call) : Act Nat :=
  c.withOptions { letters := "t:1:2:j:a:v:o:e:i" } 1 fun g => do
    match g.operands with
    | [a, b] =>
      match ← content a, ← content b with
      | .ok x, .ok y =>
        let mark := (g.value? 't').bind List.head?
        let place (letter : Char) : Nat :=
          (((g.value? letter).orElse fun _ => g.value? 'j').map number).getD 1
        let gap : Raw := [mark.getD ' ']
        let keyed (text : Raw) (k : Nat) : List Keyed :=
          (lines text).map fun l =>
            let fields := fieldsOfLine mark l
            ⟨(fields[k - 1]?).getD [], fields, fields.eraseIdx (k - 1)⟩
        let firsts := keyed x (place '1')
        let seconds := keyed y (place '2')
        let wants (side : Char) : Bool :=
          (g.values 'a').contains [side] || (g.values 'v').contains [side]
        let filler := (g.value? 'e').getD []
        let filled (text : Option Raw) : Raw :=
          let text := text.getD []
          if text.isEmpty then filler else text
        let layout : List Raw := (g.values 'o').flatMap fun text =>
          (Text.pieces ',' (text.map fun c => if c = ' ' then ',' else c)).filter
            fun f => !f.isEmpty
        let shown (x y : Option Keyed) : Raw :=
          let key := ((x.orElse fun _ => y).map (·.key)).getD []
          let field (which : Raw) : Raw :=
            match which with
            | '1' :: '.' :: n => filled (x.bind fun x => x.fields[number n - 1]?)
            | '2' :: '.' :: n => filled (y.bind fun y => y.fields[number n - 1]?)
            | _ => key
          let usual := key :: ((x.map (·.others)).getD [] ++ (y.map (·.others)).getD [])
          gap.intercalate (if layout.isEmpty then usual else layout.map field)
        for (x, y) in pairUp (firsts.length + seconds.length + 1) firsts seconds do
          let isWanted :=
            match x, y with
            | some _, some _ => !g.has 'v'
            | some _, none => wants '1'
            | none, _ => wants '2'
          if isWanted then outLine (shown x y)
        return 0
      | .error e, _ => c.refuse (e.reason) 1
      | _, .error e => c.refuse (e.reason) 1
    | _ => c.refuse "missing operand" 1

/-- Line up words in columns. -/
def column (c : Call) : Act Nat :=
  c.withOptions { letters := "ts:o:" } 1 fun g => do
    let (text, status) ← contents c g.operands 1
    let rows := ((lines text).filter fun l => !l.all isSpace).map fun l =>
      match g.value? 's' with
      | some (m :: _) => Text.pieces m l
      | _ => fieldsOfLine none l
    if g.has 't' then
      let gap := (g.value? 'o').getD [' ', ' ']
      let width (k : Nat) : Nat := rows.foldl (fun n row => max n ((row[k]?).getD []).length) 0
      for row in rows do
        let cells := row.zipIdx.map fun (cell, k) =>
          if k + 1 = row.length then cell else padRight (width k) cell
        outLine (gap.intercalate cells)
    else
      for row in rows do outLine (spaced row)
    return status

end NativeBuild.Tool
