import NativeBuild.Userland.Shell.Script
import NativeBuild.Userland.Regex.Parse

/-!
Patterns with stars, question marks, bracketed sets and choices, as they are matched against whole
texts.
-/

namespace NativeBuild.Shell

/-- A character of a word that has been filled in, and whether it is protected from being a pattern.
-/
abbrev Marked := Char × Bool

/-- A part of a pattern.  A choice has the mark that stands in front of it, which says how often one
of the patterns in it may match. -/
inductive Glob where
  | one (c : Char)
  | any
  | many
  | among (set : Text.CharSet)
  | choose (mark : Char) (choices : List (List Glob))

/-- What is special about a pattern: which characters make a set one of all others, whether dots and
equals signs may stand around a character in a set, whether there are choices, and whether letters
of both cases count as one. -/
structure GlobStyle where
  negations : List Char := ['!']
  collates : Bool := false
  hasChoices : Bool := false
  foldsCase : Bool := false

/-- How patterns are read in a language. -/
def Language.globStyle (l : Language) (hasChoices foldsCase : Bool) : GlobStyle :=
  match l with
  | .plain => {}
  | .rich => { negations := ['!', '^'], collates := true, hasChoices, foldsCase }

/-- A member of a set, or one end of a range of members, and what follows. -/
def takeMember (collates : Bool) (text : List Marked) : Option (Char × List Marked) :=
  match text with
  | ('[', false) :: ('.', _) :: (c, _) :: ('.', _) :: (']', _) :: rest =>
    if collates then some (c, rest) else some ('[', text.drop 1)
  | ('[', false) :: ('=', _) :: (c, _) :: ('=', _) :: (']', _) :: rest =>
    if collates then some (c, rest) else some ('[', text.drop 1)
  | ('\\', false) :: (c, _) :: rest => some (c, rest)
  | (c, _) :: rest => some (c, rest)
  | [] => none

/-- A named class in front of a text, and what follows it. -/
def takeClass (text : List Marked) : Option (List (Char × Char) × List Marked) :=
  match text with
  | ('[', false) :: (':', _) :: rest =>
    let name := (rest.takeWhile fun c => c.1.isAlpha).map Prod.fst
    match rest.drop name.length with
    | (':', _) :: (']', _) :: rest =>
      some ((Text.classRanges? (String.ofList name)).getD [], rest)
    | _ => none
  | _ => none

/-- The members of a set up to its closing bracket, which cannot come first, and what follows it. -/
def takeSet (collates : Bool) :
    Nat → Bool → List Marked → Option (List (Char × Char) × List Marked)
  | 0, _, _ => none
  | _, _, [] => none
  | fuel + 1, first, text => do
    let also (members : List (Char × Char)) (rest : List Marked) :
        Option (List (Char × Char) × List Marked) := do
      let (more, rest) ← takeSet collates fuel false rest
      some (members ++ more, rest)
    match first, text with
    | false, (']', false) :: rest => some ([], rest)
    | _, _ =>
      match takeClass text with
      | some (members, rest) => also members rest
      | none =>
        let (a, rest) ← takeMember collates text
        match rest with
        | ('-', false) :: (']', false) :: _ => also [(a, a)] rest
        | ('-', false) :: rest =>
          let (b, rest) ← takeMember collates rest
          also [(a, b)] rest
        | _ => also [(a, a)] rest

/-- The choices of a pattern up to the bracket that closes them, and what follows. -/
def takeChoices : Nat → Nat → List Marked → Option (List (List Marked) × List Marked)
  | 0, _, _ => none
  | _, _, [] => none
  | fuel + 1, depth, c :: rest =>
    if c = (')', false) ∧ depth = 0 then some ([[]], rest)
    else
      let deeper := if c = ('(', false) then depth + 1 else if c = (')', false) then depth - 1
        else depth
      match takeChoices fuel deeper rest with
      | some (first :: more, rest) =>
        if c = ('|', false) ∧ depth = 0 then some ([] :: first :: more, rest)
        else some ((c :: first) :: more, rest)
      | _ => none

/-- The parts of a pattern, in at most `fuel` steps. -/
def globWithin (style : GlobStyle) : Nat → List Marked → List Glob
  | 0, _ => []
  | _, [] => []
  | fuel + 1, (c, isQuoted) :: rest =>
    let plain : List Glob := .one c :: globWithin style fuel rest
    let chosen : Option (List (List Marked) × List Marked) :=
      if style.hasChoices && !isQuoted && ['?', '*', '+', '@', '!'].contains c &&
          rest.head? = some ('(', false) then
        takeChoices (rest.length + 1) 0 (rest.drop 1)
      else none
    match chosen with
    | some (choices, rest) =>
      .choose c (choices.map (globWithin style fuel)) :: globWithin style fuel rest
    | none =>
      if isQuoted then plain
      else if c = '*' then .many :: globWithin style fuel rest
      else if c = '?' then .any :: globWithin style fuel rest
      else if c = '\\' then
        match rest with
        | (d, _) :: rest => .one d :: globWithin style fuel rest
        | [] => plain
      else if c = '[' then
        let (negated, body) :=
          match rest with
          | (d, false) :: body => if style.negations.contains d then (true, body) else (false, rest)
          | _ => (false, rest)
        match takeSet style.collates (body.length + 1) true body with
        | some (members, rest) => .among ⟨negated, members⟩ :: globWithin style fuel rest
        | none => plain
      else plain

/-- A pattern as it is matched: its parts, and whether letters of both cases count as one. -/
structure Pattern where
  parts : List Glob
  foldsCase : Bool := false

/-- The pattern that a word is. -/
def Pattern.of (style : GlobStyle) (word : List Marked) : Pattern :=
  ⟨globWithin style (word.length + 1) word, style.foldsCase⟩

/-- The number of parts of a pattern, those in choices included. -/
def Glob.size : Glob → Nat
  | .choose _ choices =>
    (choices.attach.map fun choice =>
      (choice.1.attach.map fun part => part.1.size).foldl (· + ·) 1).foldl (· + ·) 1
  | _ => 1
termination_by g => sizeOf g
decreasing_by
  have h1 := List.sizeOf_lt_of_mem part.2
  have h2 := List.sizeOf_lt_of_mem choice.2
  simp only [choose.sizeOf_spec]
  omega

/-- Whether some end of a text, the whole and the empty one included, satisfies `p`. -/
def anyEnd (p : Raw → Bool) : Raw → Bool
  | [] => p []
  | c :: rest => p (c :: rest) || anyEnd p rest

/-- Whether parts of a pattern match a whole text, in at most `fuel` steps within one another. -/
def globMatches (same : Char → Char → Bool) (among : Text.CharSet → Char → Bool) :
    Nat → List Glob → Raw → Bool
  | 0, _, _ => false
  | _, [], text => text.isEmpty
  | fuel + 1, part :: more, text =>
    let go := globMatches same among fuel
    match part, text with
    | .many, _ => anyEnd (go more) text
    | .one c, d :: text => same c d && go more text
    | .any, _ :: text => go more text
    | .among set, d :: text => among set d && go more text
    | .choose mark choices, _ =>
      let once : Bool := choices.any fun choice => go (choice ++ more) text
      let again (mark : Char) : Bool :=
        (List.range text.length).any fun n =>
          choices.any (fun choice => go choice (text.take (n + 1))) &&
            go (.choose mark choices :: more) (text.drop (n + 1))
      match mark with
      | '?' => go more text || once
      | '@' => once
      | '*' => go more text || again '*'
      | '+' => once || again '+'
      | _ =>
        (List.range (text.length + 1)).any fun n =>
          !choices.any (fun choice => go choice (text.take n)) && go more (text.drop n)
    | _, [] => false

/-- Whether a pattern matches a whole text. -/
def Pattern.accepts (p : Pattern) (text : Raw) : Bool :=
  let fuel := p.parts.foldl (fun n part => n + part.size) (2 * text.length + 2)
  if p.foldsCase then
    globMatches (fun a b => a.toLower = b.toLower)
      (fun set c => set.has c || set.has c.toLower || set.has c.toUpper) fuel p.parts text
  else globMatches (· = ·) (fun set c => set.has c) fuel p.parts text

/-- Whether a word holds an unprotected pattern character. -/
def hasGlob (hasChoices : Bool) (text : List Marked) : Bool :=
  text.any (fun (c, isQuoted) => !isQuoted && (c = '*' || c = '?' || c = '[')) ||
    (hasChoices && text.any fun (c, isQuoted) => !isQuoted && c = '(')

/-- What is left of a text without the shortest or longest front that matches. -/
def dropFront (pattern : Pattern) (greedy : Bool) (text : Raw) : Raw :=
  let lengths := List.range (text.length + 1)
  let lengths := if greedy then lengths.reverse else lengths
  match lengths.find? fun n => pattern.accepts (text.take n) with
  | some n => text.drop n
  | none => text

/-- What is left of a text without the shortest or longest back that matches. -/
def dropBack (pattern : Pattern) (greedy : Bool) (text : Raw) : Raw :=
  let lengths := List.range (text.length + 1)
  let lengths := if greedy then lengths else lengths.reverse
  match lengths.find? fun n => pattern.accepts (text.drop n) with
  | some n => text.take n
  | none => text

/-- The length of the longest front of a text that matches, if one does. -/
def longestFront (pattern : Pattern) (text : Raw) : Option Nat :=
  (List.range (text.length + 1)).reverse.find? fun n => pattern.accepts (text.take n)

/-- Replace the first part that matches, or all of them, in at most `fuel` steps. -/
def replaceParts (pattern : Pattern) (all : Bool) (word : Raw → Raw) : Nat → Raw → Raw
  | 0, text => text
  | fuel + 1, text =>
    match text with
    | [] => []
    | c :: rest =>
      match longestFront pattern text with
      | some n =>
        if n = 0 then c :: replaceParts pattern all word fuel rest
        else if all then
          word (text.take n) ++ replaceParts pattern all word fuel (text.drop n)
        else word (text.take n) ++ text.drop n
      | none => c :: replaceParts pattern all word fuel rest

/-- A text with what matches replaced by a rule; `word` makes the new text of the old one. -/
def replaceBy (rule : ReplaceRule) (pattern : Pattern) (word : Raw → Raw) (text : Raw) : Raw :=
  match rule with
  | .first => replaceParts pattern false word (text.length + 1) text
  | .all => replaceParts pattern true word (text.length + 1) text
  | .front =>
    match longestFront pattern text with
    | some n => word (text.take n) ++ text.drop n
    | none => text
  | .back =>
    match (List.range (text.length + 1)).find? fun n => pattern.accepts (text.drop n) with
    | some n => text.take n ++ word (text.drop n)
    | none => text

/-- A text with the letters that match a pattern in the other case: all of them, or the first one if
it does. -/
def recaseBy (how : Recasing) (throughout : Bool) (pattern : Pattern) (text : Raw) : Raw :=
  let change (c : Char) : Char :=
    if pattern.parts.isEmpty || pattern.accepts [c] then
      match how with
      | .upper => c.toUpper
      | .lower => c.toLower
      | .other => if c.isUpper then c.toLower else c.toUpper
    else c
  if throughout then text.map change
  else
    match text with
    | c :: rest => change c :: rest
    | [] => []

end NativeBuild.Shell
