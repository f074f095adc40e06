import NativeBuild.Userland.Regex.Basic

/-!
Matching regular expressions: of the matches that start first, the longest one; of those, the one
whose repetitions take as much as they can, first things first.
-/

namespace NativeBuild.Text

/-- Where the groups of an expression have matched: start and end, by number. -/
abbrev Captures := List (Nat × Nat × Nat)

/-- A match: its start and end, and those of its groups. -/
structure Match where
  start : Nat
  stop : Nat
  groups : Captures

/-- A text that is searched: letters of both cases may count as one. -/
structure Subject where
  chars : Array Char
  foldCase : Bool

namespace Subject

/-- The character at a place. -/
def at? (t : Subject) (i : Nat) : Option Char :=
  t.chars[i]?

/-- Whether two characters count as the same. -/
def same (t : Subject) (a b : Char) : Bool :=
  a = b || (t.foldCase && a.toLower = b.toLower)

/-- Whether a character belongs to a set. -/
def inSet (t : Subject) (set : CharSet) (c : Char) : Bool :=
  if t.foldCase then
    let among (c : Char) : Bool := set.ranges.any fun r => r.1 ≤ c && c ≤ r.2
    (among c || among c.toLower || among c.toUpper) != set.negated
  else set.has c

/-- Whether the characters on both sides of a place belong to words. -/
def around (t : Subject) (i : Nat) : Bool × Bool :=
  (i ≠ 0 && ((t.at? (i - 1)).map isWordChar).getD false, ((t.at? i).map isWordChar).getD false)

/-- The part of the text between two places. -/
def slice (t : Subject) (start stop : Nat) : List Char :=
  (t.chars.extract start stop).toList

/-- Whether two stretches of the text of one length are the same. -/
def sameStretch (t : Subject) (i j n : Nat) : Bool :=
  (List.range n).all fun k =>
    match t.at? (i + k), t.at? (j + k) with
    | some a, some b => t.same a b
    | _, _ => false

end Subject

/-- The best match found so far: its end and its groups. -/
abbrev Best := Option (Nat × Captures)

/-- Whether no better match can be found. -/
def Best.isFull (best : Best) (t : Subject) : Bool :=
  match best with
  | some (stop, _) => stop = t.chars.size
  | none => false

/-- Keep the longer of a new match and the best one before it. -/
def Best.offer (stop : Nat) (groups : Captures) (best : Best) : Best :=
  match best with
  | some (old, _) => if old < stop then some (stop, groups) else best
  | none => some (stop, groups)

namespace Regex

/-- Try an expression at a place, in at most `fuel` nested steps, and go on from every place where
it may end, the preferred ones first. -/
def tryAt (t : Subject) :
    Nat → Regex → Nat → Captures → (Nat → Captures → Best → Best) → Best → Best
  | 0, _, _, _, _, best => best
  | fuel + 1, r, i, groups, goOn, best =>
    let here (holds : Bool) : Best := if holds then goOn i groups best else best
    let next (fits : Char → Bool) : Best :=
      match t.at? i with
      | some c => if fits c then goOn (i + 1) groups best else best
      | none => best
    match r with
    | .empty => goOn i groups best
    | .one c => next (t.same c)
    | .any => next fun _ => true
    | .among set => next (t.inSet set)
    | .lineStart => here (i = 0)
    | .lineEnd => here (i = t.chars.size)
    | .wordStart => here (t.around i = (false, true))
    | .wordEnd => here (t.around i = (true, false))
    | .wordEdge => here ((t.around i).1 != (t.around i).2)
    | .withinWord => here ((t.around i).1 == (t.around i).2)
    | .seq a b =>
      tryAt t fuel a i groups (fun i groups best => tryAt t fuel b i groups goOn best) best
    | .alt a b =>
      let best := tryAt t fuel a i groups goOn best
      if best.isFull t then best else tryAt t fuel b i groups goOn best
    | .group n a =>
      let close (j : Nat) (inner : Captures) (best : Best) : Best :=
        goOn j ((n, i, j) :: inner.filter (·.1 ≠ n)) best
      tryAt t fuel a i groups close best
    | .again n =>
      match groups.lookup n with
      | some (start, stop) =>
        if t.sameStretch start i (stop - start) then goOn (i + (stop - start)) groups best else best
      | none => best
    | .times a least most =>
      if most = some 0 then goOn i groups best
      else
        let after (j : Nat) (inner : Captures) (best : Best) : Best :=
          if j = i ∧ least = 0 then best
          else tryAt t fuel (.times a (least - 1) (most.map (· - 1))) j inner goOn best
        let best := tryAt t fuel a i groups after best
        if least ≠ 0 ∨ best.isFull t then best else goOn i groups best

/-- The longest match that starts at a place. -/
def matchAt (r : Regex) (t : Subject) (i : Nat) : Option Match :=
  let fuel := (r.size + 2) * (t.chars.size + 3) + 8
  (tryAt t fuel r i [] Best.offer none).map fun (stop, groups) => ⟨i, stop, groups⟩

/-- The first match that starts at a place or after it. -/
def search (r : Regex) (t : Subject) (start : Nat) : Option Match :=
  (List.range' start (t.chars.size + 1 - start)).findSome? (r.matchAt t)

/-- The matches in a text that do not overlap, in order, from a place on; an empty match right
behind another one does not count. -/
def searchAll (r : Regex) (t : Subject) : Nat → Nat → Option Nat → List Match
  | 0, _, _ => []
  | fuel + 1, start, last =>
    match r.search t start with
    | none => []
    | some m =>
      if m.stop = m.start then
        let more := searchAll r t fuel (m.stop + 1) last
        if last = some m.start then more else m :: more
      else m :: searchAll r t fuel m.stop (some m.stop)

/-- All matches in a text that do not overlap, in order. -/
def all (r : Regex) (t : Subject) : List Match :=
  r.searchAll t (t.chars.size + 2) 0 none

end Regex

/-- The text of a group of a match. -/
def Match.group? (m : Match) (t : Subject) (n : Nat) : Option (List Char) :=
  if n = 0 then some (t.slice m.start m.stop)
  else (m.groups.lookup n).map fun (start, stop) => t.slice start stop

end NativeBuild.Text
