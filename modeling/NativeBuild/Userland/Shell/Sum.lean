import NativeBuild.Userland.Shell.State

/-!
Sums in a shell script: whole numbers of 64 bits, names, the usual operators by their rank, and
giving values to names.
-/

namespace NativeBuild.Shell

/-- The operators between two numbers. -/
inductive SumOperator where
  | either
  | both
  | bitOr
  | bitXor
  | bitAnd
  | equal
  | unequal
  | less
  | greater
  | atMost
  | atLeast
  | shiftLeft
  | shiftRight
  | add
  | subtract
  | multiply
  | divide
  | remainder
  | power
  deriving DecidableEq

namespace SumOperator

/-- How an operator is written. -/
def spelling : List (String × SumOperator) :=
  [("||", either), ("&&", both), ("|", bitOr), ("^", bitXor), ("&", bitAnd), ("==", equal),
    ("!=", unequal), ("<", less), (">", greater), ("<=", atMost), (">=", atLeast),
    ("<<", shiftLeft), (">>", shiftRight), ("+", add), ("-", subtract), ("*", multiply),
    ("/", divide), ("%", remainder), ("**", power)]

/-- The rank of an operator; a greater rank binds closer. -/
def rank : SumOperator → Nat
  | either => 1
  | both => 2
  | bitOr => 3
  | bitXor => 4
  | bitAnd => 5
  | equal | unequal => 6
  | less | greater | atMost | atLeast => 7
  | shiftLeft | shiftRight => 8
  | add | subtract => 9
  | multiply | divide | remainder => 10
  | power => 11

/-- The rank that what stands behind an operator has at least: powers are taken from the right. -/
def rankBehind (op : SumOperator) : Nat :=
  if op = power then op.rank else op.rank + 1

end SumOperator

/-- What a sum can give a value to: a variable, or an item of one. -/
structure SumPlace where
  name : Raw
  key : Option Raw

/-- A part of a sum. -/
inductive SumToken where
  | number (n : Int)
  | place (p : SumPlace)
  | operator (text : String)

/-- The operators of sums, longest first. -/
def sumOperators (l : Language) : List String :=
  (match l with
    | .plain => []
    | .rich => ["**", "++", "--"]) ++
  ["<<=", ">>=", "<<", ">>", "<=", ">=", "==", "!=", "&&", "||", "+=", "-=", "*=", "/=", "%=", "&=",
    "^=", "|=", "+", "-", "*", "/", "%", "<", ">", "!", "~", "(", ")", "&", "|", "^", "?", ":",
    "="] ++
  match l with
  | .plain => []
  | .rich => [","]

/-- The greatest number of 64 bits with a sign. -/
def maxSigned : Nat := 0x7fffffffffffffff

/-- The number from `-2 ^ 63` up to `2 ^ 63` that has the same 64 bits. -/
def wrapped (n : Int) : Int :=
  n.bmod 0x10000000000000000

/-- The number at the start of a text without a sign, and what follows it. -/
def takeNumber (text : Raw) : Nat × Raw :=
  match text with
  | '0' :: x :: rest =>
    if (x = 'x' ∨ x = 'X') ∧ ((rest.head?.bind Text.hexValue?).isSome) then
      takeDigits 16 rest.length 0 rest
    else takeDigits 8 (rest.length + 1) 0 (x :: rest)
  | _ => (Text.decimalValue (text.takeWhile Text.isDigit), text.dropWhile Text.isDigit)

/-- The value of a digit in a base of at most 64. -/
def wideDigit? (base : Nat) (c : Char) : Option Nat :=
  let value : Option Nat :=
    if Text.isDigit c then some (Text.digitValue c)
    else if 'a' ≤ c ∧ c ≤ 'z' then some (c.toNat - 'a'.toNat + 10)
    else if 'A' ≤ c ∧ c ≤ 'Z' then
      some (c.toNat - 'A'.toNat + if base ≤ 36 then 10 else 36)
    else if c = '@' then some 62
    else if c = '_' then some 63
    else none
  value.filter (· < base)

/-- The number that a whole text is in the rich language: with a base in front of a mark, or by the
way it starts. -/
def wideNumber? (text : Raw) : Option Int :=
  let inBase (base : Nat) (digits : Raw) : Option Int :=
    if digits.isEmpty then none
    else
      (digits.foldlM (fun n c => (wideDigit? base c).map (n * base + ·)) 0).map fun n =>
        wrapped (n : Nat)
  match Text.cut '#' text with
  | (base, some digits) =>
    let base := Text.decimalValue base
    if 2 ≤ base ∧ base ≤ 64 then inBase base digits else none
  | _ =>
    match text with
    | '0' :: 'x' :: digits => inBase 16 digits
    | '0' :: 'X' :: digits => inBase 16 digits
    | '0' :: digits => if digits.isEmpty then some 0 else inBase 8 digits
    | _ => inBase 10 text

/-- The text up to the bracket that closes a key, and what follows it. -/
def takeKey : Nat → Raw → Option (Raw × Raw)
  | _, [] => none
  | depth, c :: rest =>
    if c = ']' ∧ depth = 0 then some ([], rest)
    else
      let depth := if c = '[' then depth + 1 else if c = ']' then depth - 1 else depth
      (takeKey depth rest).map fun (key, rest) => (c :: key, rest)

/-- The parts of a sum, in at most `fuel` steps; `none` if there is something else in it. -/
def sumTokens (l : Language) : Nat → Raw → Option (List SumToken)
  | 0, _ => none
  | _, [] => some []
  | fuel + 1, c :: rest =>
    if c = ' ' ∨ c = '\t' ∨ c = '\n' then sumTokens l fuel rest
    else if Text.isDigit c then
      match l with
      | .plain =>
        let (n, after) := takeNumber (c :: rest)
        (sumTokens l fuel after).map (.number (min n maxSigned : Nat) :: ·)
      | .rich => do
        let digits := (c :: rest).takeWhile fun c => isNameChar c || c = '#' || c = '@'
        let n ← wideNumber? digits
        let more ← sumTokens l fuel ((c :: rest).drop digits.length)
        return .number n :: more
    else if isNameChar c then
      let name := c :: rest.takeWhile isNameChar
      let after := rest.dropWhile isNameChar
      match l, after with
      | .rich, '[' :: inner => do
        let (key, after) ← takeKey 0 inner
        return .place ⟨name, some key⟩ :: (← sumTokens l fuel after)
      | _, _ => (sumTokens l fuel after).map (.place ⟨name, none⟩ :: ·)
    else do
      let op ← (sumOperators l).find? (·.toList.isPrefixOf (c :: rest))
      let more ← sumTokens l fuel ((c :: rest).drop op.length)
      return .operator op :: more

/-- A sum.  `give` puts a value into a place; with an operator, it puts in what the operator makes
of the place's value and the other.  `change` adds to a place's value and is that value before or
after. -/
inductive SumTree where
  | number (n : Int)
  | place (p : SumPlace)
  | negate (a : SumTree)
  | complement (a : SumTree)
  | isZero (a : SumTree)
  | apply (op : SumOperator) (a b : SumTree)
  | choose (condition yes no : SumTree)
  | give (p : SumPlace) (op : Option SumOperator) (a : SumTree)
  | change (p : SumPlace) (step : Int) (isAfter : Bool)
  | andThen (a b : SumTree)

/-- What a sign that gives a value to a name does first: nothing, or another operator. -/
def giving? (text : String) : Option (Option SumOperator) :=
  let operators := ["*", "/", "%", "+", "-", "<<", ">>", "&", "^", "|"]
  if text = "=" then some none
  else (operators.find? (· ++ "=" = text)).map fun op => SumOperator.spelling.lookup op

mutual

/-- Read a number, a name, a bracket or an operator in front of one of these. -/
def sumAtom : Nat → List SumToken → Option (SumTree × List SumToken)
  | 0, _ => none
  | fuel + 1, tokens =>
    match tokens with
    | .number n :: rest => some (.number n, rest)
    | .place p :: .operator "++" :: rest => some (.change p 1 false, rest)
    | .place p :: .operator "--" :: rest => some (.change p (-1) false, rest)
    | .place p :: rest => some (.place p, rest)
    | .operator "(" :: rest => do
      let (a, rest) ← sumAll fuel rest
      match rest with
      | .operator ")" :: rest => some (a, rest)
      | _ => none
    | .operator "++" :: .place p :: rest => some (.change p 1 true, rest)
    | .operator "--" :: .place p :: rest => some (.change p (-1) true, rest)
    | .operator "++" :: rest => sumAtom fuel rest
    | .operator "--" :: rest => sumAtom fuel rest
    | .operator "-" :: rest => (sumAtom fuel rest).map fun (a, rest) => (.negate a, rest)
    | .operator "+" :: rest => sumAtom fuel rest
    | .operator "!" :: rest => (sumAtom fuel rest).map fun (a, rest) => (.isZero a, rest)
    | .operator "~" :: rest => (sumAtom fuel rest).map fun (a, rest) => (.complement a, rest)
    | _ => none

/-- Read operators of at least a rank, and what they stand between. -/
def sumAbove : Nat → Nat → List SumToken → Option (SumTree × List SumToken)
  | 0, _, _ => none
  | fuel + 1, least, tokens => do
    let (a, rest) ← sumAtom fuel tokens
    sumRest fuel least a rest

/-- Go on behind a sum with operators of at least a rank. -/
def sumRest : Nat → Nat → SumTree → List SumToken → Option (SumTree × List SumToken)
  | 0, _, _, _ => none
  | fuel + 1, least, a, tokens =>
    match tokens with
    | .operator text :: rest =>
      match SumOperator.spelling.lookup text with
      | some op =>
        if op.rank < least then some (a, tokens)
        else do
          let (b, rest) ← sumAbove fuel op.rankBehind rest
          sumRest fuel least (.apply op a b) rest
      | none => some (a, tokens)
    | _ => some (a, tokens)

/-- Read operators, and a choice if there is one. -/
def sumChoice : Nat → List SumToken → Option (SumTree × List SumToken)
  | 0, _ => none
  | fuel + 1, tokens => do
    let (a, rest) ← sumAbove fuel 0 tokens
    match rest with
    | .operator "?" :: rest =>
      let (yes, rest) ← sumAll fuel rest
      match rest with
      | .operator ":" :: rest =>
        let (no, rest) ← sumWhole fuel rest
        some (.choose a yes no, rest)
      | _ => none
    | _ => some (a, rest)

/-- Read a sum, which may give its value to a place. -/
def sumWhole : Nat → List SumToken → Option (SumTree × List SumToken)
  | 0, _ => none
  | fuel + 1, tokens =>
    match tokens with
    | .place p :: .operator op :: rest =>
      match giving? op with
      | some first => (sumWhole fuel rest).map fun (a, rest) => (.give p first a, rest)
      | none => sumChoice fuel tokens
    | _ => sumChoice fuel tokens

/-- Read sums with commas between them. -/
def sumAll : Nat → List SumToken → Option (SumTree × List SumToken)
  | 0, _ => none
  | fuel + 1, tokens => do
    let (a, rest) ← sumWhole fuel tokens
    match rest with
    | .operator "," :: rest =>
      let (b, rest) ← sumAll fuel rest
      some (.andThen a b, rest)
    | _ => some (a, rest)

end

/-- Read a text as a sum.  Nothing at all is zero in the rich language. -/
def SumTree.parse? (l : Language) (text : Raw) : Option SumTree := do
  let tokens ← sumTokens l (text.length + 1) text
  if tokens.isEmpty ∧ l = .rich then some (.number 0)
  else
    match ← sumAll (9 * tokens.length + 9) tokens with
    | (a, []) => some a
    | _ => none

/-- One for true and zero for false. -/
def truth (b : Bool) : Int :=
  if b then 1 else 0

/-- The bits of a number, 64 of them. -/
def bits (n : Int) : Nat :=
  (n % 0x10000000000000000).toNat

/-- A power by repeated multiplication, wrapped. -/
def wrappedPower (a : Int) : Nat → Int
  | 0 => 1
  | n + 1 => wrapped (wrappedPower a n * a)

/-- The value of an operator between two numbers; there is none for a division by zero. -/
def SumOperator.apply? (op : SumOperator) (a b : Int) : Option Int :=
  match op with
  | either => some (truth (a ≠ 0 ∨ b ≠ 0))
  | both => some (truth (a ≠ 0 ∧ b ≠ 0))
  | bitOr => some (wrapped (bits a ||| bits b))
  | bitXor => some (wrapped (bits a ^^^ bits b))
  | bitAnd => some (wrapped (bits a &&& bits b))
  | equal => some (truth (a = b))
  | unequal => some (truth (a ≠ b))
  | less => some (truth (a < b))
  | greater => some (truth (a > b))
  | atMost => some (truth (a ≤ b))
  | atLeast => some (truth (a ≥ b))
  | shiftLeft => some (wrapped (a * Nat.pow 2 (bits b % 64)))
  | shiftRight => some (a / Nat.pow 2 (bits b % 64))
  | add => some (wrapped (a + b))
  | subtract => some (wrapped (a - b))
  | multiply => some (wrapped (a * b))
  | divide => if b = 0 then none else some (wrapped (a.tdiv b))
  | remainder => if b = 0 then none else some (a.tmod b)
  | power => if b < 0 then none else some (wrappedPower a (min b.toNat 0x10000))

/-- The value of an operator that its left side alone decides. -/
def SumOperator.early? (op : SumOperator) (a : Int) : Option Int :=
  match op with
  | either => if a ≠ 0 then some 1 else none
  | both => if a = 0 then some 0 else none
  | _ => none

/-- The number that a variable holds in the plain language; blanks are zero, and what is not a
number or too great is none. -/
def heldNumber? (text : Raw) : Option Int :=
  let body := text.dropWhile isSpace
  let negative := body.head? == some '-'
  let digits := if negative || body.head? == some '+' then body.drop 1 else body
  if body.isEmpty then some 0
  else if !(digits.head?.map Text.isDigit).getD false then none
  else
    let (n, rest) := takeNumber digits
    let n : Int := if negative then -(n : Int) else n
    if rest.all isSpace && wrapped n = n then some n else none

/-- A place of a list, counted from its end if it is negative. -/
def listPlace (items : List (Nat × Raw)) (n : Int) : Nat :=
  if n < 0 then ((items.foldl (fun k item => max k (item.1 + 1)) 0 : Nat) + n).toNat else n.toNat

/-- Whether the keys of a variable are texts. -/
def State.isTable (s : State) (name : Raw) : Bool :=
  match (s.var? (s.resolve name)).bind (·.value) with
  | some (.table _) => true
  | _ => false

/-- The items of a list by their numbers; a text is an item of its own. -/
def State.listOf (s : State) (name : Raw) : List (Nat × Raw) :=
  match (s.var? (s.resolve name)).bind (·.value) with
  | some (.list items) => items
  | some (.text t) => [(0, t)]
  | _ => []

/-- The items of a table. -/
def State.tableOf (s : State) (name : Raw) : List (Raw × Raw) :=
  match (s.var? (s.resolve name)).bind (·.value) with
  | some (.table items) => items
  | _ => []

/-- Put a text at a place of a list. -/
def State.setItem (s : State) (name : Raw) (place : Int) (text : Raw) : State :=
  let items := s.listOf name
  s.assign name (.list (insertItem (listPlace items place) text items))

/-- Put a text under a key of a table. -/
def State.setKey (s : State) (name key text : Raw) : State :=
  s.assign name (.table (insertKey key text (s.tableOf name)))

mutual

/-- The number that a text in a variable stands for. -/
def sumOfText : Nat → State → Raw → Option (Int × State)
  | 0, _, _ => none
  | fuel + 1, s, text =>
    match s.language with
    | .plain => (heldNumber? text).map (·, s)
    | .rich => do sumValue fuel s (← SumTree.parse? s.language text)

/-- The value of a place. -/
def placeValue : Nat → State → SumPlace → Option (Int × State)
  | 0, _, _ => none
  | fuel + 1, s, p =>
    match p.key with
    | none => sumOfText fuel s ((s.value? p.name).getD [])
    | some key =>
      if s.isTable p.name then sumOfText fuel s (((s.tableOf p.name).lookup key).getD [])
      else do
        let (n, s) ← sumOfText fuel s key
        let items := s.listOf p.name
        sumOfText fuel s ((items.lookup (listPlace items n)).getD [])

/-- Put a value into a place. -/
def givePlace : Nat → State → SumPlace → Int → Option State
  | 0, _, _, _ => none
  | fuel + 1, s, p, n =>
    let text := Text.signedDecimal n
    match p.key with
    | none => some (s.set p.name text)
    | some key =>
      if s.isTable p.name then some (s.setKey p.name key text)
      else do
        let (place, s) ← sumOfText fuel s key
        some (s.setItem p.name place text)

/-- The value of a sum, and the shell after the values that it gives to names.  What need not be
known is not looked at. -/
def sumValue : Nat → State → SumTree → Option (Int × State)
  | 0, _, _ => none
  | fuel + 1, s, tree =>
    match tree with
    | .number n => some (n, s)
    | .place p => placeValue fuel s p
    | .negate a => (sumValue fuel s a).map fun (n, s) => (wrapped (-n), s)
    | .complement a => (sumValue fuel s a).map fun (n, s) => (-n - 1, s)
    | .isZero a => (sumValue fuel s a).map fun (n, s) => (truth (n = 0), s)
    | .apply op a b => do
      let (m, s) ← sumValue fuel s a
      match op.early? m with
      | some n => return (n, s)
      | none =>
        let (n, s) ← sumValue fuel s b
        return (← op.apply? m n, s)
    | .choose a yes no => do
      let (n, s) ← sumValue fuel s a
      if n = 0 then sumValue fuel s no else sumValue fuel s yes
    | .give p op a => do
      let (n, s) ← sumValue fuel s a
      let n ← match op with
        | none => some n
        | some op => do op.apply? (← placeValue fuel s p).1 n
      return (n, ← givePlace fuel s p n)
    | .change p step isAfter => do
      let (n, s) ← placeValue fuel s p
      let s ← givePlace fuel s p (wrapped (n + step))
      return (if isAfter then wrapped (n + step) else n, s)
    | .andThen a b => do
      let (_, s) ← sumValue fuel s a
      sumValue fuel s b

end

/-- The value of a text as a sum, and the shell after the values that it gives to names. -/
def State.reckon? (s : State) (text : Raw) : Option (Int × State) := do
  let tree ← SumTree.parse? s.language text
  sumValue (4 * text.length + 400) s tree

end NativeBuild.Shell
