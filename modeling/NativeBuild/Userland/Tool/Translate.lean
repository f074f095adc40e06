import NativeBuild.Userland.Shell.Printf
import NativeBuild.Userland.Tool.Basic
import NativeBuild.Userland.Regex.Basic

/-!
Replacing, taking away and squeezing characters.
-/

namespace NativeBuild.Tool

open Shell

/-- A part of a set of characters: one, a range, a class, or one that is repeated; without a count,
as often as the other set needs it. -/
inductive SetPart where
  | one (c : Char)
  | range (a b : Char)
  | named (name : String) (members : Raw)
  | repeated (c : Char) (count : Option Nat)

namespace SetPart

/-- The members of a class in order. -/
def classMembers? (name : String) : Option Raw :=
  (Text.classRanges? name).map fun ranges =>
    ranges.flatMap fun (a, b) =>
      (List.range (b.toNat + 1 - a.toNat)).map fun k => Char.ofNat (a.toNat + k)

/-- The character in front of a text, with escapes resolved, and what follows. -/
def takeChar (text : Raw) : Option (Char × Raw) :=
  match text with
  | [] => none
  | ['\\'] => some ('\\', [])
  | '\\' :: rest =>
    match readBackslash ⟨false, false, false, false⟩ rest with
    | (some [c], after) => if c = '\\' && after.length = rest.length then
        some (rest.headD '\\', rest.drop 1) else some (c, after)
    | _ => some (rest.headD '\\', rest.drop 1)
  | c :: rest => some (c, rest)

/-- Read the parts of a set, in at most `fuel` steps; `none` if a range goes down or a class is
unknown. -/
def readAll : Nat → Raw → Option (List SetPart)
  | 0, _ => none
  | _, [] => some []
  | fuel + 1, '[' :: ':' :: rest =>
    let name := rest.takeWhile Char.isAlpha
    if ":]".toList.isPrefixOf (rest.drop name.length) then do
      let members ← classMembers? (String.ofList name)
      let more ← readAll fuel (rest.drop (name.length + 2))
      some (.named (String.ofList name) members :: more)
    else (readAll fuel (':' :: rest)).map (.one '[' :: ·)
  | fuel + 1, '[' :: '=' :: c :: '=' :: ']' :: rest => (readAll fuel rest).map (.one c :: ·)
  | fuel + 1, '[' :: rest =>
    let again : Option (SetPart × Raw) := do
      let (c, after) ← takeChar rest
      match after with
      | '*' :: after =>
        let digits := after.takeWhile Text.isDigit
        match after.drop digits.length with
        | ']' :: after =>
          let n :=
            if digits.head? = some '0' then (takeNumber digits).1 else Text.decimalValue digits
          some (.repeated c (if n = 0 then none else some n), after)
        | _ => none
      | _ => none
    match again with
    | some (part, after) => (readAll fuel after).map (part :: ·)
    | none => rangeOr fuel '[' rest
  | fuel + 1, text =>
    match takeChar text with
    | some (c, rest) => rangeOr fuel c rest
    | none => some []
where
  /-- Go on behind a character that may start a range. -/
  rangeOr : Nat → Char → Raw → Option (List SetPart)
    | 0, _, _ => none
    | fuel + 1, c, rest =>
      match rest with
      | '-' :: d :: more => do
        let (b, after) ← takeChar (d :: more)
        if b < c then none
        let others ← readAll fuel after
        some (.range c b :: others)
      | _ => (readAll fuel rest).map (.one c :: ·)

/-- The characters of a part. -/
def chars (missing : Nat) : SetPart → Raw
  | .one c => [c]
  | .range a b => (List.range (b.toNat + 1 - a.toNat)).map fun k => Char.ofNat (a.toNat + k)
  | .named _ members => members
  | .repeated c count => List.replicate (count.getD missing) c

end SetPart

/-- The characters of a set, filled up to a size where a part of it is repeated as needed. -/
def setChars (parts : List SetPart) (size : Nat) : Raw :=
  let least := (parts.map fun p => (p.chars 0).length).foldl (· + ·) 0
  parts.flatMap (SetPart.chars (size - least))

/-- All characters that are not in a set, in order. -/
def othersOf (set : Raw) : Raw :=
  ((List.range 256).map Char.ofNat).filter fun c => !set.contains c

/-- Leave one of each run of equal characters that are in a set. -/
def squeeze (set : Raw) (text : Raw) : Raw :=
  (text.foldl
    (fun kept c => if kept.head? = some c && set.contains c then kept else c :: kept) []).reverse

/-- What each character becomes; the last one of the second set stands for all that it lacks. -/
def exchanges (first second : Raw) : Array Char :=
  let table := (Array.range 256).map Char.ofNat
  first.zipIdx.foldl
    (fun table (c, k) => table.setIfInBounds c.toNat ((second[k]?).getD (second.getLastD c))) table

/-- Replace, take away or squeeze characters. -/
def tr (c : Call) : Act Nat :=
  let known : OptionSet :=
    { letters := "cCdst"
      long := [("complement", 'c'), ("delete", 'd'), ("squeeze-repeats", 's'),
        ("truncate-set1", 't')]
      permutes := false }
  c.withOptions known 1 fun g => do
    let deletes := g.has 'd'
    let squeezes := g.has 's'
    let others := g.has 'c' || g.has 'C'
    let count := g.operands.length
    let isRight :=
      if deletes then count = (if squeezes then 2 else 1)
      else count = 2 || (squeezes && count = 1)
    if !isRight then c.refuse "wrong number of operands" 1
    else
      let read (text : Raw) : Option (List SetPart) := SetPart.readAll (3 * text.length + 3) text
      match read (g.operands.headD []), read ((g.operands.drop 1).headD []) with
      | some first, some second =>
        let plain := setChars first 0
        let one := if others then othersOf plain else plain
        let two := setChars second one.length
        let translates := !deletes && count = 2
        if translates && two.isEmpty && !one.isEmpty && !g.has 't' then
          c.refuse "when not truncating set1, string2 must be non-empty" 1
        else
          let one := if g.has 't' then one.take two.length else one
          let text ← takeInput
          if deletes then
            let kept := text.filter fun x => !one.contains x
            out (if squeezes then squeeze two kept else kept)
          else if translates then
            let table := exchanges one two
            let changed := text.map fun x => (table[x.toNat]?).getD x
            out (if squeezes then squeeze two changed else changed)
          else out (squeeze one text)
          return 0
      | _, _ => c.refuse "invalid set" 1

end NativeBuild.Tool
