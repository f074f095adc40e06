import NativeBuild.Userland.Tool.Grep

/-!
Tools that compare files.
-/

namespace NativeBuild.Tool

open Shell

/-- Compare two files byte by byte. -/
def cmp (c : Call) : Act Nat :=
  let known : OptionSet :=
    { letters := "bi:ln:s", long := [("silent", 's'), ("quiet", 's'), ("verbose", 'l'),
        ("print-bytes", 'b'), ("bytes", 'n')] }
  c.withOptions known 2 fun g => do
    match g.operands with
    | [] => c.refuse "missing operand" 2
    | a :: rest =>
      let b := rest.headD ['-']
      match ← content a, ← content b with
      | .ok x, .ok y =>
        let limit := ((g.value? 'n').map number).getD (max x.length y.length)
        let x := x.take limit
        let y := y.take limit
        let same := ((x.zip y).takeWhile fun pair => pair.1 = pair.2).length
        let octal (c : Char) : Raw := padLeft 3 (Text.digits 8 c.toNat)
        if g.has 'l' then
          for (pair, k) in (x.zip y).zipIdx do
            if pair.1 ≠ pair.2 && !g.has 's' then
              outLine (spaced [Text.decimal (k + 1), octal pair.1, octal pair.2])
          return if x = y then 0 else 1
        else if same = x.length && same = y.length then return 0
        else if same = x.length || same = y.length then
          if !g.has 's' then
            c.complain (rawString "EOF on " ++ if same = x.length then a else b)
          return 1
        else
          if !g.has 's' then
            let line := (x.take same).count '\n' + 1
            outLine (a ++ ' ' :: b ++ rawString " differ: char " ++ Text.decimal (same + 1) ++
              rawString ", line " ++ Text.decimal line)
          return 1
      | .error e, _ => c.refuse e.reason 2
      | _, .error e => c.refuse e.reason 2

/-- A line of two files put together: one that both have, or that only the first or the second has.
-/
inductive Edit where
  | keep (line : Raw)
  | delete (line : Raw)
  | insert (line : Raw)

/-- The lengths of the longest common parts of the ends of two lists, for one line of the first and
every place in the second, from those for the next line. -/
def commonRow (same : Raw → Raw → Bool) (a : Raw) (bs : List Raw) (below : List Nat) : List Nat :=
  (bs.zip (below.zip (below.drop 1))).foldr
    (fun item row =>
      let (b, here, next) := item
      (if same a b then next + 1 else max here (row.headD 0)) :: row) [0]

/-- The table of the lengths of longest common parts, a row for every end of the first list. -/
def commonTable (same : Raw → Raw → Bool) (as bs : List Raw) : List (List Nat) :=
  as.foldr (fun a rows => commonRow same a bs (rows.headD []) :: rows)
    [List.replicate (bs.length + 1) 0]

/-- The edits that lead from one list of lines to another, in at most `fuel` steps, by a table of
common parts. -/
def editsWithin (same : Raw → Raw → Bool) :
    Nat → List (List Nat) → List Raw → List Raw → List Edit
  | 0, _, _, _ => []
  | _, _, [], bs => bs.map .insert
  | _, _, as, [] => as.map .delete
  | fuel + 1, rows, a :: as, b :: bs =>
    let here := rows.headD []
    let below := (rows.drop 1).headD []
    if same a b then
      .keep a :: editsWithin same fuel ((rows.drop 1).map fun row => row.drop 1) as bs
    else if here.headD 0 ≤ below.headD 0 then
      .delete a :: editsWithin same fuel (rows.drop 1) as (b :: bs)
    else .insert b :: editsWithin same fuel (rows.map fun row => row.drop 1) (a :: as) bs

/-- The edits that lead from one list of lines to another. -/
def editsOf (same : Raw → Raw → Bool) (as bs : List Raw) : List Edit :=
  editsWithin same (as.length + bs.length + 1) (commonTable same as bs) as bs

/-- A place where two files differ: the lines before it in each, and what each has there. -/
structure Hunk where
  first : Nat
  second : Nat
  deleted : List Raw
  inserted : List Raw

/-- The places where files differ. -/
def hunksOf (edits : List Edit) : List Hunk :=
  let step (acc : List Hunk × Nat × Nat × Bool) (e : Edit) : List Hunk × Nat × Nat × Bool :=
    let (hunks, i, j, isOpen) := acc
    let opened : List Hunk := if isOpen then hunks else ⟨i, j, [], []⟩ :: hunks
    match e, opened with
    | .keep _, _ => (hunks, i + 1, j + 1, false)
    | .delete l, h :: rest => ({ h with deleted := h.deleted ++ [l] } :: rest, i + 1, j, true)
    | .insert l, h :: rest => ({ h with inserted := h.inserted ++ [l] } :: rest, i, j + 1, true)
    | _, [] => acc
  (edits.foldl step ([], 0, 0, false)).1.reverse

/-- A range of lines behind a number of lines. -/
def lineRange (before count : Nat) : Raw :=
  if count = 0 then Text.decimal before
  else if count = 1 then Text.decimal (before + 1)
  else Text.decimal (before + 1) ++ ',' :: Text.decimal (before + count)

/-- A place where two files differ, as it is usually shown. -/
def Hunk.normal (h : Hunk) : Raw :=
  let kind : Char := if h.deleted.isEmpty then 'a' else if h.inserted.isEmpty then 'd' else 'c'
  let marked (mark : Char) (ls : List Raw) : Raw := ls.flatMap fun l => mark :: ' ' :: l ++ ['\n']
  lineRange h.first h.deleted.length ++ kind :: lineRange h.second h.inserted.length ++ ['\n'] ++
    marked '<' h.deleted ++
    (if h.deleted.isEmpty || h.inserted.isEmpty then [] else "---\n".toList) ++
    marked '>' h.inserted

/-- Edits in groups with a number of kept lines around each; every group has the number of lines
before it in both files. -/
def groupsOf (context : Nat) (edits : List Edit) : List (Nat × Nat × List Edit) :=
  let indexed := edits.toArray
  let isChange (k : Nat) : Bool := match indexed[k]? with
    | some (.keep _) => false
    | some _ => true
    | none => false
  let changes := (List.range indexed.size).filter isChange
  let isShown (k : Nat) : Bool := changes.any fun i => i ≤ k + context && k ≤ i + context
  let step (acc : List (Nat × Nat × List Edit) × Nat × Nat × Bool) (item : Edit × Nat) :
      List (Nat × Nat × List Edit) × Nat × Nat × Bool :=
    let (groups, i, j, isOpen) := acc
    let (e, k) := item
    let (di, dj) := match e with
      | .keep _ => (1, 1)
      | .delete _ => (1, 0)
      | .insert _ => (0, 1)
    if !isShown k then (groups, i + di, j + dj, false)
    else
      match isOpen, groups with
      | true, (a, b, es) :: rest => ((a, b, es ++ [e]) :: rest, i + di, j + dj, true)
      | _, _ => ((i, j, [e]) :: groups, i + di, j + dj, true)
  (edits.zipIdx.foldl step ([], 0, 0, false)).1.reverse

/-- A group of edits with its heading. -/
def groupText (group : Nat × Nat × List Edit) : Raw :=
  let (i, j, es) := group
  let count (f : Edit → Bool) : Nat := (es.filter f).length
  let first := count fun e => match e with | .insert _ => false | _ => true
  let second := count fun e => match e with | .delete _ => false | _ => true
  let range (before n : Nat) : Raw :=
    if n = 1 then Text.decimal (before + 1)
    else Text.decimal (if n = 0 then before else before + 1) ++ ',' :: Text.decimal n
  rawString "@@ -" ++ range i first ++ rawString " +" ++ range j second ++ rawString " @@\n" ++
    es.flatMap fun
      | .keep l => ' ' :: l ++ ['\n']
      | .delete l => '-' :: l ++ ['\n']
      | .insert l => '+' :: l ++ ['\n']

/-- How lines are compared: without regard to case, to the amount of blanks, or to blanks at all. -/
def comparedLine (g : Given) (line : Raw) : Raw :=
  let line := if g.has 'i' then line.map Char.toLower else line
  if g.has 'w' then line.filter fun c => !isSpace c
  else if g.has 'b' then
    spaced ((Text.pieces ' ' (line.map fun c => if isSpace c then ' ' else c)).filter fun w =>
      !w.isEmpty)
  else line

/-- Compare two texts and show where they differ. -/
def diffTexts (g : Given) (a b x y : Raw) : Act Nat := do
  let marked (text : Raw) : List Raw :=
    let ls := lines text
    if text.isEmpty || text.getLast? = some '\n' then ls
    else ls.dropLast ++ [ls.getLastD [] ++ "\n\\ No newline at end of file".toList]
  let shown (ls : List Raw) : List Raw := if g.has 'B' then ls.filter fun l => !l.isEmpty else ls
  let as := shown (marked x)
  let bs := shown (marked y)
  let same (l m : Raw) : Bool := comparedLine g l = comparedLine g m
  let edits := editsOf same as bs
  let hunks := hunksOf edits
  if hunks.isEmpty then
    if g.has 's' then outLine (rawString "Files " ++ a ++ rawString " and " ++ b ++
      rawString " are identical")
    return 0
  else
    if g.has 'q' then
      outLine (rawString "Files " ++ a ++ rawString " and " ++ b ++ rawString " differ")
    else if g.has 'u' || g.has 'U' then
      let context := match g.value? 'U' with
        | some n => number n
        | none => 3
      let label (k : Nat) (name : Raw) : Raw := match (g.values 'L')[k]? with
        | some text => text
        | none => name
      outLine (rawString "--- " ++ label 0 a)
      outLine (rawString "+++ " ++ label 1 b)
      for group in groupsOf context edits do out (groupText group)
    else
      for h in hunks do out h.normal
    return 1

/-- Compare files line by line. -/
def diff (c : Call) : Act Nat :=
  let known : OptionSet :=
    { letters := "abBdeiL:nNpqrsStTuU:wyc"
      long := [("brief", 'q'), ("unified", 'u'), ("ignore-case", 'i'), ("ignore-all-space", 'w'),
        ("ignore-space-change", 'b'), ("ignore-blank-lines", 'B'), ("report-identical-files", 's'),
        ("recursive", 'r'), ("new-file", 'N'), ("label", 'L'), ("text", 'a')] }
  c.withOptions known 2 fun g => do
    match g.operands with
    | [a, b] =>
      let p ← get
      let isDirectory (path : Raw) : Bool :=
        path ≠ ['-'] && p.files.isDirectory p.here (rawPath path)
      let under (dir file : Raw) : Raw := dir ++ '/' :: lastPart file []
      if isDirectory a && isDirectory b then
        let relative (base : Raw) : List Raw :=
          (filesBelow p base).map fun path => path.drop (base.length + 1)
        let names := (relative a ++ relative b).eraseDups.mergeSort inOrder
        let mut status := 0
        for name in names do
          let path (base : Raw) : Raw := base ++ '/' :: name
          let only (base : Raw) : Act Unit :=
            let inner := abovePart name
            let dir := if inner = ['.'] then base else path base |> abovePart
            outLine (rawString "Only in " ++ dir ++ rawString ": " ++ lastPart name [])
          match ← content (path a), ← content (path b) with
          | .ok x, .ok y => if (← diffTexts g (path a) (path b) x y) ≠ 0 then status := 1
          | .ok _, .error _ =>
            only a
            status := 1
          | .error _, .ok _ =>
            only b
            status := 1
          | _, _ => status := 2
        return status
      else
        let first := if isDirectory a then under a b else a
        let second := if isDirectory b then under b a else b
        let text (path : Raw) : Act (Except IoError Raw) := do
          match ← content path with
          | .error .notFound => return if g.has 'N' then .ok [] else .error .notFound
          | result => return result
        match ← text first, ← text second with
        | .ok x, .ok y => diffTexts g first second x y
        | .error e, _ => c.refuse e.reason 2
        | _, .error e => c.refuse e.reason 2
    | _ => c.refuse "missing operand" 2

end NativeBuild.Tool
