import NativeBuild.Userland.Tool.Files

/-!
Tools that write parts of what they read, and one that puts names in an order.
-/

namespace NativeBuild.Tool

open Shell

/-- Items in groups of a size, in at most `fuel` steps. -/
def groupsOfSize {α : Type} (size : Nat) : Nat → List α → List (List α)
  | 0, _ => []
  | _, [] => []
  | fuel + 1, items => items.take size :: groupsOfSize size fuel (items.drop size)

/-- The ending of the name of a part: digits or letters, as many as asked for. -/
def partEnding (isNumber : Bool) : Nat → Nat → Raw
  | 0, _ => []
  | width + 1, k =>
    let base := if isNumber then 10 else 26
    let digit := Char.ofNat ((if isNumber then 48 else 97) + k % base)
    partEnding isNumber width (k / base) ++ [digit]

/-- Write parts of a file to files of their own. -/
def split (c : Call) : Act Nat :=
  let known : OptionSet :=
    { letters := "l:b:n:a:dxeu"
      long := [("lines", 'l'), ("bytes", 'b'), ("number", 'n'), ("suffix-length", 'a'),
        ("numeric-suffixes", 'd')] }
  c.withOptions known 1 fun g => do
    let name := g.operands.headD ['-']
    let start := (g.operands[1]?).getD ['x']
    match ← content name with
    | .error e =>
      c.complain (fileFault name e)
      return 1
    | .ok text =>
      let size := ((g.value? 'l').orElse fun _ => g.value? 'b').bind sized?
      let count := (g.value? 'n').bind Text.decimal?
      if (g.has 'l' || g.has 'b') && size.all (· = 0) || g.has 'n' && count.all (· = 0) then
        c.refuse "invalid number" 1
      else
        let ls := lines text
        let whole : List Raw :=
          if text.getLast? = some '\n' then ls.map (· ++ ['\n'])
          else ls.dropLast.map (· ++ ['\n']) ++ (ls.drop (ls.length - 1))
        let parts : List Raw :=
          match count with
          | some n =>
            let share := text.length / n
            (List.range n).map fun k =>
              if k + 1 = n then text.drop (k * share) else (text.drop (k * share)).take share
          | none =>
            if g.has 'b' then groupsOfSize (size.getD 1) (text.length + 1) text
            else (groupsOfSize (size.getD 1000) (whole.length + 1) whole).map List.flatten
        let width := ((g.value? 'a').bind Text.decimal?).getD 2
        let mut status := 0
        for (part, k) in parts.zipIdx do
          let path := start ++ partEnding (g.has 'd') width k
          if !(← change c path fun p => p.writeFile .anew (rawPath path) part) then status := 1
        return status

/-- Copy a number of blocks of bytes. -/
def dd (c : Call) : Act Nat := do
  let settings := c.args.map fun a => Text.cut '=' a
  let value (name : String) : Option Raw := (settings.lookup name.toList).bind id
  let size (name : String) (usual : Nat) : Nat := ((value name).bind sized?).getD usual
  let names := ["if", "of", "bs", "ibs", "obs", "count", "skip", "seek", "conv", "status", "iflag",
    "oflag", "cbs"]
  if settings.any fun s => s.2.isNone || !names.contains (String.ofList s.1) then
    c.refuse "unrecognized operand" 1
  else
    let block := size "bs" (size "ibs" 512)
    let words := Text.pieces ',' ((value "conv").getD [])
    let input ← match value "if" with
      | some name => content name
      | none => do pure (.ok (← takeInput))
    match input with
    | .error e =>
      c.complain (fileFault ((value "if").getD []) e)
      return 1
    | .ok text =>
      let text := text.drop (size "skip" 0 * block)
      let text := match value "count" with
        | some n => text.take ((sized? n).getD 0 * block)
        | none => text
      let text := if words.contains "ucase".toList then text.map Char.toUpper
        else if words.contains "lcase".toList then text.map Char.toLower
        else text
      if value "status" ≠ some "none".toList then
        let full := text.length / block
        let part := if text.length % block = 0 then 0 else 1
        let counts := Text.decimal full ++ '+' :: Text.decimal part
        err (counts ++ rawString " records in")
        err (counts ++ rawString " records out")
      match value "of" with
      | none =>
        out text
        return 0
      | some path =>
        let skipped := size "seek" 0 * size "bs" (size "obs" 512)
        let done ← change c path fun p => do
          let old : Raw := match p.readFile (rawPath path) with
            | .ok (_, old) => old
            | .error _ => []
          let before := old.take skipped ++ List.replicate (skipped - old.length) (Char.ofNat 0)
          let after := if words.contains "notrunc".toList then old.drop (skipped + text.length)
            else []
          p.writeFile .anew (rawPath path) (before ++ text ++ after)
        return if done then 0 else 1

/-- Put names in an order in which each comes behind those that it needs, in at most `fuel` steps.
-/
def orderedNames : Nat → List (Raw × Raw) → List Raw → List Raw
  | 0, _, names => names
  | _, _, [] => []
  | fuel + 1, pairs, names =>
    let isFree (n : Raw) : Bool := !pairs.any fun p => p.2 = n && p.1 ≠ n && names.contains p.1
    match names.filter isFree with
    | [] => names
    | free => free ++ orderedNames fuel pairs (names.filter fun n => !free.contains n)

/-- Put names in an order that pairs of them ask for. -/
def tsort (c : Call) : Act Nat := do
  let (text, status) ← contents c c.args 1
  let words := (Text.pieces ' ' (text.map fun ch => if isSpace ch then ' ' else ch)).filter fun w =>
    !w.isEmpty
  if words.length % 2 ≠ 0 then c.refuse "input contains an odd number of tokens" 1
  else
    let pairs := (groupsOfSize 2 (words.length + 1) words).filterMap fun
      | [a, b] => some (a, b)
      | _ => none
    for name in orderedNames (words.length + 1) pairs words.eraseDups do outLine name
    return status

end NativeBuild.Tool
