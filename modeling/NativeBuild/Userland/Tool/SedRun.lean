import NativeBuild.Userland.Tool.Copy
import NativeBuild.Userland.Tool.Sed
import NativeBuild.Userland.Tool.Show

/-!
Editing lines by a script: running it.
-/

namespace NativeBuild.Tool.Sed

open Shell
open Text (Regex Subject Match)

/-- A line of the input, whether it had an end, and the file that it comes from. -/
structure Row where
  text : Raw
  ended : Bool
  file : Raw

/-- The state of an edit: the text that is edited and the one that is held, the number of the line
and whether it had an end, the lines to come, what is to follow the line, the expression that was
used last, whether something was replaced, the ranges that are open with the line at which they are
to end, whether the last output lacked its end, and the character that lines end in. -/
structure State where
  text : Raw := []
  held : Raw := []
  number : Nat := 0
  ended : Bool := true
  file : Raw := []
  rest : List Row
  queue : List (Raw ⊕ Raw) := []
  lastUsed : Expression := none
  replaced : Bool := false
  ranges : List (Nat × Option Nat) := []
  lacksEnd : Bool := false
  output : List Raw := []
  quiet : Bool
  written : List Raw := []
  mark : Char := '\n'

/-- What an edit does: it may write files. -/
abbrev Edit := StateT State Act

/-- Write some text behind what was written. -/
def put (text : Raw) : Edit Unit :=
  modify fun s =>
    let before := if s.lacksEnd then [s.mark] :: s.output else s.output
    { s with output := text :: before, lacksEnd := false }

/-- Write a line, which lacks its end if the line of the input did. -/
def putLine (text : Raw) : Edit Unit := do
  put text
  modify fun s =>
    if s.ended || !s.rest.isEmpty then { s with output := [s.mark] :: s.output }
    else { s with lacksEnd := true }

/-- Write a line to a named file, which is made anew at first. -/
def writeTo (name text : Raw) : Edit Unit := do
  if name = "/dev/stdout".toList then put (text ++ ['\n'])
  else
    let s ← get
    let isNew := !s.written.contains name
    if isNew then set { s with written := name :: s.written }
    let mode : Process.WriteMode := if isNew then .anew else .append
    StateT.lift (modify fun p =>
      match p.writeFile mode (rawPath name) (text ++ ['\n']) with
      | .ok p => p
      | .error _ => p)

/-- Write what is to follow the line. -/
def flush : Edit Unit := do
  let s ← get
  set { s with queue := [] }
  for item in s.queue.reverse do
    match item with
    | .inl text => put text
    | .inr name =>
      let p ← StateT.lift (get : Act Process)
      match p.readFile (rawPath name) with
      | .ok (_, text) => if !text.isEmpty then put text
      | .error _ => pure ()

/-- Take the next line of the input; false if there is none. -/
def advance : Edit Bool := do
  let s ← get
  match s.rest with
  | [] => return false
  | row :: rest =>
    set { s with
      text := row.text, ended := row.ended, file := row.file, rest, number := s.number + 1 }
    return true

/-- The expression that is meant: the one used last, if none is given. -/
def meant (r : Expression) : Edit Expression := do
  match r with
  | some _ =>
    modify fun s => { s with lastUsed := r }
    return r
  | none => return (← get).lastUsed

/-- Whether the text matches an expression. -/
def isMatch (r : Expression) : Edit Bool := do
  match ← meant r with
  | some (r, folds) => return (r.search ⟨(← get).text.toArray, folds⟩ 0).isSome
  | none => return false

/-- Whether the line is at an address. -/
def isAt (a : Address) : Edit Bool := do
  let s ← get
  match a with
  | .line n => return s.number = n
  | .every first step =>
    if step = 0 then return s.number = first
    else return first ≤ s.number && (s.number - first) % step = 0
  | .last => return s.rest.isEmpty
  | .holds r => isMatch r
  | .more _ => return false
  | .multiple _ => return false

/-- Whether a command is for the line; `index` is its place in the script. -/
def isFor (index : Nat) (c : Command) : Edit Bool := do
  match c.start, c.stop with
  | none, _ => return true
  | some a, none => isAt a
  | some a, some b =>
    let s ← get
    let close : Edit Unit := modify fun s => { s with ranges := s.ranges.filter (·.1 ≠ index) }
    let openUntil (stop : Option Nat) : Edit Unit :=
      modify fun s => { s with ranges := (index, stop) :: s.ranges.filter (·.1 ≠ index) }
    let isZero := match a with
      | .line 0 => s.number = 1
      | _ => false
    if isZero && (s.ranges.lookup index).isNone then openUntil none
    match (← get).ranges.lookup index with
    | some (some stop) =>
      if stop ≤ s.number then close
      return s.number ≤ stop
    | some none =>
      if ← isAt b then close
      return true
    | none =>
      if ← isAt a then
        match b with
        | .line n => if s.number < n then openUntil (some n)
        | .more n => if n ≠ 0 then openUntil (some (s.number + n))
        | .multiple n =>
          let stop := if n = 0 then s.number else s.number + n - s.number % n
          if s.number < stop then openUntil (some stop)
        | _ => openUntil none
        return true
      else return false

/-- Texts in the cases that the parts between them ask for. -/
def recased (pieces : List (Raw ⊕ (Option Bool × Bool))) : Raw :=
  let shape (upper : Option Bool) (text : Raw) : Raw :=
    match upper with
    | some true => text.map Char.toUpper
    | some false => text.map Char.toLower
    | none => text
  let step (acc : Raw × Option Bool × Option Bool) (piece : Raw ⊕ (Option Bool × Bool)) :
      Raw × Option Bool × Option Bool :=
    let (done, always, once) := acc
    match piece with
    | .inr (upper, true) => (done, always, upper)
    | .inr (upper, false) => (done, upper, none)
    | .inl [] => acc
    | .inl (c :: rest) =>
      let first := shape (once.orElse fun _ => always) [c]
      (done ++ first ++ shape always rest, always, none)
  (pieces.foldl step ([], none, none)).1

/-- The text that is put in the stead of a match. -/
def replacementOf (t : Subject) (m : Match) (parts : List Part) : Raw :=
  recased <| parts.map fun
    | .text text => .inl text
    | .group n => .inl ((m.group? t n).getD [])
    | .recase upper one => .inr (upper, one)

/-- The text with matches replaced: from the first that counts on, one or all; and whether there was
one. -/
def substituted (s : Substitution) (t : Subject) (ms : List Match) : Raw × Bool :=
  let chosen := ms.zipIdx.filter fun item =>
    if s.all then s.first ≤ item.2 + 1 else item.2 + 1 = s.first
  let step (acc : List Raw × Nat) (item : Match × Nat) : List Raw × Nat :=
    let m := item.1
    (replacementOf t m s.parts :: t.slice acc.2 m.start :: acc.1, m.stop)
  let (pieces, place) := chosen.foldl step ([], 0)
  ((t.slice place t.chars.size :: pieces).reverse.flatten, !chosen.isEmpty)

/-- A text with all characters visible, and lines broken. -/
def listed (text : Raw) : Raw :=
  let shown := text.flatMap fun c =>
    if c = '\\' then ['\\', '\\']
    else if c = '\n' then ['\\', 'n']
    else if c = '\t' then ['\\', 't']
    else if c = '\r' then ['\\', 'r']
    else if c.toNat = 7 then ['\\', 'a']
    else if c.toNat = 8 then ['\\', 'b']
    else if c.toNat = 11 then ['\\', 'v']
    else if c.toNat = 12 then ['\\', 'f']
    else if 32 ≤ c.toNat && c.toNat < 127 then [c]
    else
      let digits := Text.digits 8 c.toNat
      '\\' :: (List.replicate (3 - digits.length) '0' ++ digits)
  let rec broken : Nat → Raw → Raw
    | 0, line => line
    | fuel + 1, line =>
      if line.length < 70 then line
      else line.take 69 ++ ['\\', '\n'] ++ broken fuel (line.drop 69)
  broken shown.length shown ++ ['$', '\n']

/-- How a command goes on: with the next one or another one, with the next line, with the same text
again, or not at all. -/
inductive Onward where
  | to (index : Nat)
  | cycle (prints : Bool)
  | again
  | stop (prints : Bool) (status : Nat)

/-- The place of a label; the end of the script, if it has no name. -/
def placeOf (script : Array Command) (name : Raw) : Nat :=
  if name.isEmpty then script.size
  else
    (script.toList.findIdx? fun c => match c.function with
      | .label l => l = name
      | _ => false).getD script.size

/-- Run one command on the line. -/
def runOne (script : Array Command) (index : Nat) (c : Command) : Edit Onward := do
  let s ← get
  let isMeant := (← isFor index c) != c.negated
  let next := Onward.to (index + 1)
  if !isMeant then
    return match c.function with
      | .block n => .to (index + 1 + n)
      | _ => next
  else
    match c.function with
    | .block _ => return next
    | .label _ => return next
    | .nothing => return next
    | .printNumber =>
      put (Text.decimal s.number ++ ['\n'])
      return next
    | .append text =>
      modify fun s => { s with queue := .inl text :: s.queue }
      return next
    | .insert text =>
      put text
      return next
    | .change text =>
      let goesOn := c.stop.isSome && !c.negated && ((← get).ranges.lookup index).isSome
      if !goesOn then put text
      return .cycle false
    | .branch name => return .to (placeOf script name)
    | .branchIf expected name =>
      if s.replaced = expected then
        modify fun s => { s with replaced := false }
        return .to (placeOf script name)
      else
        modify fun s => { s with replaced := false }
        return next
    | .delete => return .cycle false
    | .deleteFirst =>
      if s.text.contains s.mark then
        modify fun s => { s with text := (s.text.dropWhile (· ≠ s.mark)).drop 1 }
        return .again
      else return .cycle false
    | .get =>
      modify fun s => { s with text := s.held }
      return next
    | .getMore =>
      modify fun s => { s with text := s.text ++ s.mark :: s.held }
      return next
    | .hold =>
      modify fun s => { s with held := s.text }
      return next
    | .holdMore =>
      modify fun s => { s with held := s.held ++ s.mark :: s.text }
      return next
    | .exchange =>
      modify fun s => { s with held := s.text, text := s.held }
      return next
    | .list =>
      put (listed s.text)
      return next
    | .next =>
      if s.rest.isEmpty then return .stop true 0
      else
        if !s.quiet then putLine s.text
        flush
        let _ ← advance
        return next
    | .nextMore =>
      if s.rest.isEmpty then return .stop true 0
      else
        flush
        let _ ← advance
        modify fun t => { t with text := s.text ++ s.mark :: t.text }
        return next
    | .print =>
      putLine s.text
      return next
    | .printFirst =>
      put (s.text.takeWhile (· ≠ s.mark) ++ [s.mark])
      return next
    | .quit prints status => return .stop prints status
    | .readFile name =>
      modify fun s => { s with queue := .inr name :: s.queue }
      return next
    | .writeFile name =>
      writeTo name s.text
      return next
    | .empty =>
      modify fun s => { s with text := [] }
      return next
    | .fileName =>
      put (s.file ++ ['\n'])
      return next
    | .translate table =>
      modify fun s => { s with text := s.text.map fun c => (table.lookup c).getD c }
      return next
    | .substitute sub =>
      match ← meant sub.pattern with
      | none => return next
      | some (r, folds) =>
        let t : Subject := ⟨s.text.toArray, folds⟩
        let (text, found) := substituted sub t (r.all t)
        if found then
          modify fun s => { s with text, replaced := true }
          if sub.prints then putLine text
          if let some name := sub.file then writeTo name text
        return next

/-- Run a script on a line, in at most `fuel` commands. -/
def runCommands (script : Array Command) : Nat → Nat → Edit Onward
  | 0, _ => return .stop false 4
  | fuel + 1, index => do
    match script[index]? with
    | none => return .cycle true
    | some c =>
      match ← runOne script index c with
      | .to index => runCommands script fuel index
      | onward => return onward

/-- Run a script on every line, in at most `fuel` turns; the answer is a status, if the script ended
the edit. -/
def runLines (script : Array Command) : Nat → Bool → Edit (Option Nat)
  | 0, _ => return some 4
  | fuel + 1, fresh => do
    if fresh then
      if !(← advance) then return none
      modify fun s => { s with replaced := false }
    let onward ← runCommands script 100000 0
    let finish (prints : Bool) : Edit Unit := do
      let s ← get
      if prints && !s.quiet then putLine s.text
      flush
    match onward with
    | .again =>
      flush
      runLines script fuel false
    | .stop prints status =>
      finish prints
      return some status
    | .cycle prints =>
      finish prints
      runLines script fuel true
    | .to _ => return none

/-- The rows of a file, which end in a given character. -/
def rowsOf (mark : Char) (file text : Raw) : List Row :=
  let pieces := Text.pieces mark text
  pieces.dropLast.map (⟨·, true, file⟩) ++
    match pieces.getLast? with
    | some (c :: rest) => [⟨c :: rest, false, file⟩]
    | _ => []

end Sed

open Shell Sed

/-- Edit lines by a script. -/
def sed (c : Call) : Act Nat :=
  let known : OptionSet :=
    { letters := "ne:f:i::I::Erszul:"
      long := [("quiet", 'n'), ("silent", 'n'), ("expression", 'e'), ("file", 'f'),
        ("in-place", 'i'),
        ("regexp-extended", 'E'), ("separate", 's'), ("unbuffered", 'u'), ("posix", 'u'),
        ("null-data", 'z')] }
  c.withOptions known 1 fun g => do
    let mut texts : List Raw := []
    for (letter, value) in g.options do
      if letter = 'e' then texts := value :: texts
      if letter = 'f' then
        match ← content value with
        | .ok text => texts := text :: texts
        | .error e =>
          c.complain (fileFault value e)
          return 1
    let isGiven := !texts.isEmpty
    let operands := if isGiven then g.operands else g.operands.drop 1
    let source := if isGiven then ['\n'].intercalate texts.reverse else g.operands.headD []
    if !isGiven && g.operands.isEmpty then c.refuse "no script specified" 1
    else
      let quiet := g.has 'n' || "#n\n".toList.isPrefixOf source
      match Sed.parse? (if g.has 'E' || g.has 'r' then .extended else .basic) source with
      | none => c.refuse "bad script" 1
      | some script =>
        let names := if operands.isEmpty then [['-']] else operands
        let inPlace := g.has 'i'
        let mark := if g.has 'z' then Char.ofNat 0 else '\n'
        let mut status := 0
        let mut files : List (Raw × List Row) := []
        for name in names do
          match ← content name with
          | .ok text => files := (name, Sed.rowsOf mark name text) :: files
          | .error e =>
            c.complain (rawString "can't read " ++ fileFault name e)
            status := 2
        let inputs := files.reverse
        let batches := if inPlace || g.has 's' then inputs
          else [(['-'], inputs.flatMap Prod.snd)]
        let mut carried : Sed.State := { rest := [], quiet, mark }
        for (name, rows) in batches do
          let number := if inPlace || g.has 's' then 0 else carried.number
          let turns := 100000 + rows.length
          let (ending, after) ← (Sed.runLines script.toArray turns true).run
            { carried with rest := rows, number, output := [], lacksEnd := false }
          let text := after.output.reverse.flatten
          if inPlace then
            let backup := (g.value? 'i').getD []
            if !backup.isEmpty then
              let _ ← change c name (copyTo {} name (name ++ backup))
            let tail := match ending with
              | some _ => after.rest.flatMap fun row => row.text ++ if row.ended then [mark] else []
              | none => []
            let _ ← change c name fun p => p.writeFile .anew (rawPath name) (text ++ tail)
          else out text
          carried := after
          if let some code := ending then return code
        return status

end NativeBuild.Tool
