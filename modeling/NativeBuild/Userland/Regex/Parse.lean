import NativeBuild.Text.Decimal
import NativeBuild.Userland.Regex.Basic

/-!
Reading regular expressions in their two written forms: the basic one, where brackets, braces and
choices are marked by a backslash, and the extended one, where they stand for themselves.
-/

namespace NativeBuild.Text

/-- How regular expressions are written. -/
inductive RegexForm where
  | basic
  | extended
  deriving DecidableEq

namespace Regex

/-- The name of a class in a set up to its end mark, and what follows. -/
def takeClassName (mark : Char) : List Char → Option (List Char × List Char)
  | [] => none
  | c :: ']' :: rest => if c = mark then some ([], rest) else
    (takeClassName mark (']' :: rest)).map fun (name, rest) => (c :: name, rest)
  | c :: rest => (takeClassName mark rest).map fun (name, rest) => (c :: name, rest)

/-- One end of a range: a character, or a character between dots or equals signs in brackets. -/
def takeEnd : List Char → Option (Char × List Char)
  | '[' :: '.' :: c :: '.' :: ']' :: rest => some (c, rest)
  | '[' :: '=' :: c :: '=' :: ']' :: rest => some (c, rest)
  | c :: rest => some (c, rest)
  | [] => none

/-- Read the members of a set up to its closing bracket, which counts as a member at the start. -/
def readMembers : Nat → Bool → List Char → Option (List (Char × Char) × List Char)
  | 0, _, _ => none
  | _, _, [] => none
  | fuel + 1, first, ']' :: rest =>
    if first then readMembersFrom fuel (']' :: rest) else some ([], rest)
  | fuel + 1, _, '[' :: ':' :: rest => do
    let (name, rest) ← takeClassName ':' rest
    let members ← classRanges? (String.ofList name)
    let (more, rest) ← readMembers fuel false rest
    some (members ++ more, rest)
  | fuel + 1, _, text => readMembersFrom fuel text
where
  /-- Read a member that is a character or a range, and those after it. -/
  readMembersFrom : Nat → List Char → Option (List (Char × Char) × List Char)
    | 0, _ => none
    | fuel + 1, text => do
      let (a, rest) ← takeEnd text
      match rest with
      | '-' :: ']' :: _ =>
        let (more, rest) ← readMembers fuel false rest
        some ((a, a) :: more, rest)
      | '-' :: rest =>
        let (b, rest) ← takeEnd rest
        if b < a then none
        let (more, rest) ← readMembers fuel false rest
        some ((a, b) :: more, rest)
      | _ =>
        let (more, rest) ← readMembers fuel false rest
        some ((a, a) :: more, rest)

/-- Read a set behind its opening bracket. -/
def readSet (text : List Char) : Option (CharSet × List Char) := do
  let (negated, body) := match text with
    | '^' :: body => (true, body)
    | _ => (false, text)
  let (ranges, rest) ← readMembers (2 * body.length + 2) true body
  some (⟨negated, ranges⟩, rest)

/-- The bounds of a repetition, and what follows them. -/
structure Bounds where
  least : Nat
  most : Option Nat
  rest : List Char

/-- Read the bounds between braces; `closing` is the text that ends them. -/
def readBounds (closing text : List Char) : Option Bounds := do
  let low := text.takeWhile isDigit
  let rest := text.dropWhile isDigit
  let finish (least : Nat) (most : Option Nat) (rest : List Char) : Option Bounds :=
    if closing.isPrefixOf rest ∧ (most.all (least ≤ ·)) then
      some ⟨least, most, rest.drop closing.length⟩
    else none
  match rest with
  | ',' :: rest =>
    let high := rest.takeWhile isDigit
    if low.isEmpty ∧ high.isEmpty then none
    else
      finish (decimalValue low) (if high.isEmpty then none else some (decimalValue high))
        (rest.dropWhile isDigit)
  | _ => if low.isEmpty then none else finish (decimalValue low) (some (decimalValue low)) rest

/-- A repetition mark at the start of a text, and what follows it. -/
def repetition? (form : RegexForm) (text : List Char) : Option Bounds :=
  match form, text with
  | _, '*' :: rest => some ⟨0, none, rest⟩
  | .extended, '+' :: rest => some ⟨1, none, rest⟩
  | .extended, '?' :: rest => some ⟨0, some 1, rest⟩
  | .extended, '\x7b' :: rest => readBounds ['\x7d'] rest
  | .basic, '\\' :: '+' :: rest => some ⟨1, none, rest⟩
  | .basic, '\\' :: '?' :: rest => some ⟨0, some 1, rest⟩
  | .basic, '\\' :: '\x7b' :: rest => readBounds ['\\', '\x7d'] rest
  | _, _ => none

/-- What a backslash and a letter stand for in both forms. -/
def escape? (c : Char) : Option Regex :=
  match c with
  | 'w' => some (.among ⟨false, wordRanges⟩)
  | 'W' => some (.among ⟨true, wordRanges⟩)
  | 's' => some (.among ⟨false, (classRanges? "space").getD []⟩)
  | 'S' => some (.among ⟨true, (classRanges? "space").getD []⟩)
  | 'b' => some .wordEdge
  | 'B' => some .withinWord
  | '<' => some .wordStart
  | '>' => some .wordEnd
  | '\'' => some .lineEnd
  | 'n' => some (.one '\n')
  | 't' => some (.one '\t')
  | _ =>
    if c.toNat = 96 then some .lineStart
    else if '1' ≤ c ∧ c ≤ '9' then some (.again (digitValue c))
    else none

/-- Whether a group or a choice ends here. -/
def endsBranch (form : RegexForm) (depth : Nat) (text : List Char) : Bool :=
  match form, text with
  | _, [] => true
  | .extended, '|' :: _ => true
  | .extended, ')' :: _ => depth ≠ 0
  | .basic, '\\' :: '|' :: _ => true
  | .basic, '\\' :: ')' :: _ => true
  | _, _ => false

mutual

/-- Read choices up to the end of their group; `next` is the number of the next group. -/
def readChoices (form : RegexForm) : Nat → Nat → Nat → List Char → Option (Regex × Nat × List Char)
  | 0, _, _, _ => none
  | fuel + 1, depth, next, text => do
    let (a, next, rest) ← readBranch form fuel depth next true text
    let another (rest : List Char) : Option (Regex × Nat × List Char) := do
      let (b, next, rest) ← readChoices form fuel depth next rest
      some (.alt a b, next, rest)
    match form, rest with
    | .extended, '|' :: rest => another rest
    | .basic, '\\' :: '|' :: rest => another rest
    | _, _ => some (a, next, rest)

/-- Read what stands one after the other; `first` says that nothing stands before it. -/
def readBranch (form : RegexForm) :
    Nat → Nat → Nat → Bool → List Char → Option (Regex × Nat × List Char)
  | 0, _, _, _, _ => none
  | fuel + 1, depth, next, first, text =>
    if endsBranch form depth text then some (.empty, next, text)
    else do
      let (a, next, rest) ← readAtom form fuel depth next first text
      let isStart := a = .lineStart
      let (a, rest) := readMarks form fuel (isStart && form = .basic) a rest
      let (b, next, rest) ← readBranch form fuel depth next (first && isStart && form = .basic) rest
      some (.seq a b, next, rest)

/-- Put the repetitions that follow around an expression. -/
def readMarks (form : RegexForm) : Nat → Bool → Regex → List Char → Regex × List Char
  | 0, _, a, rest => (a, rest)
  | fuel + 1, literal, a, rest =>
    if literal then (a, rest)
    else
      match repetition? form rest with
      | some b => readMarks form fuel false (.times a b.least b.most) b.rest
      | none => (a, rest)

/-- Read a character, a set, a place or a group. -/
def readAtom (form : RegexForm) :
    Nat → Nat → Nat → Bool → List Char → Option (Regex × Nat × List Char)
  | 0, _, _, _, _ => none
  | fuel + 1, depth, next, first, text =>
    let group (rest : List Char) : Option (Regex × Nat × List Char) := do
      let (a, after, rest) ← readChoices form fuel (depth + 1) (next + 1) rest
      match form, rest with
      | .extended, ')' :: rest => some (.group next a, after, rest)
      | .basic, '\\' :: ')' :: rest => some (.group next a, after, rest)
      | _, _ => none
    match form, text with
    | _, [] => none
    | _, '.' :: rest => some (.any, next, rest)
    | _, '[' :: rest => do
      let (set, rest) ← readSet rest
      some (.among set, next, rest)
    | .extended, '(' :: rest => group rest
    | .extended, '^' :: rest => some (.lineStart, next, rest)
    | .extended, '$' :: rest => some (.lineEnd, next, rest)
    | .basic, '\\' :: '(' :: rest => group rest
    | .basic, '\\' :: '\x7b' :: _ => none
    | .basic, '^' :: rest => some (if first then .lineStart else .one '^', next, rest)
    | .basic, '$' :: rest =>
      some (if endsBranch form depth rest then .lineEnd else .one '$', next, rest)
    | _, '\\' :: c :: rest =>
      match escape? c with
      | some (.again n) => if n < next then some (.again n, next, rest) else none
      | some r => some (r, next, rest)
      | none => some (.one c, next, rest)
    | _, ['\\'] => none
    | _, c :: rest => some (.one c, next, rest)

end

/-- Read a regular expression; `none` if it is badly formed. -/
def parse? (form : RegexForm) (text : List Char) : Option Regex :=
  match readChoices form (8 * text.length + 16) 0 1 text with
  | some (r, _, []) => some r
  | _ => none

end Regex

end NativeBuild.Text
