import NativeBuild.Userland.Tool.Awk.Program
import NativeBuild.Userland.Tool.Awk.Token

/-!
Reading programs from their words.
-/

namespace NativeBuild.Tool.Awk

open Shell (Raw)

/-- Where an expression stands: in the head of a loop, where `in` has another meaning, or behind a
command that prints, where the sign for more has. -/
structure Standing where
  inHead : Bool := false
  inPrint : Bool := false

/-- The words behind ends of lines. -/
def skipNewlines : List Token → List Token
  | .newline :: rest => skipNewlines rest
  | ts => ts

/-- The words behind ends of lines and of statements. -/
def skipEnds : List Token → List Token
  | .newline :: rest => skipEnds rest
  | .sign ";" :: rest => skipEnds rest
  | ts => ts

/-- The words behind a sign, which has to be there. -/
def expect (s : String) : List Token → Option (List Token)
  | .sign t :: rest => if s = t then some rest else none
  | _ => none

/-- Whether an expression is a place that a value can be put into. -/
def Expr.isPlace : Expr → Bool
  | .var _ => true
  | .item _ _ => true
  | .field _ => true
  | _ => false

/-- What an assignment does with the old value. -/
def assignment? : Token → Option (Option Arithmetic)
  | .sign "=" => some none
  | .sign "+=" => some (some .add)
  | .sign "-=" => some (some .sub)
  | .sign "*=" => some (some .mul)
  | .sign "/=" => some (some .div)
  | .sign "%=" => some (some .mod)
  | .sign "^=" => some (some .pow)
  | _ => none

/-- The comparison that a sign stands for. -/
def comparison? (at_ : Standing) : Token → Option Comparison
  | .sign "<" => some .less
  | .sign "<=" => some .atMost
  | .sign "==" => some .same
  | .sign "!=" => some .different
  | .sign ">=" => some .atLeast
  | .sign ">" => if at_.inPrint then none else some .more
  | _ => none

/-- Whether a word can start an operand that is put behind another one. -/
def startsOperand : Token → Bool
  | .number _ => true
  | .text _ => true
  | .regex _ => true
  | .name _ => true
  | .callee _ => true
  | .known _ => true
  | .sign s => ["$", "(", "++", "--"].contains s
  | _ => false

/-- Whether a word ends a statement. -/
def endsStatement : List Token → Bool
  | [] => true
  | .newline :: _ => true
  | .sign s :: _ => [";", "\x7d", ")", ">", ">>", "|"].contains s
  | _ => false

mutual

/-- Read an expression. -/
def readExpr : Nat → Standing → List Token → Option (Expr × List Token)
  | 0, _, _ => none
  | fuel + 1, at_, ts => do
    let (c, rest) ← readOr fuel at_ ts
    match rest with
    | .sign "?" :: rest =>
      let (yes, rest) ← readExpr fuel at_ (skipNewlines rest)
      let rest ← expect ":" (skipNewlines rest)
      let (no, rest) ← readExpr fuel at_ (skipNewlines rest)
      some (.choose c yes no, rest)
    | _ => some (c, rest)

/-- Read expressions of which one must hold. -/
def readOr : Nat → Standing → List Token → Option (Expr × List Token)
  | 0, _, _ => none
  | fuel + 1, at_, ts => do
    let (a, rest) ← readAnd fuel at_ ts
    match rest with
    | .sign "||" :: rest =>
      let (b, rest) ← readOr fuel at_ (skipNewlines rest)
      some (.or a b, rest)
    | _ => some (a, rest)

/-- Read expressions which must hold together. -/
def readAnd : Nat → Standing → List Token → Option (Expr × List Token)
  | 0, _, _ => none
  | fuel + 1, at_, ts => do
    let (a, rest) ← readIn fuel at_ ts
    match rest with
    | .sign "&&" :: rest =>
      let (b, rest) ← readAnd fuel at_ (skipNewlines rest)
      some (.and a b, rest)
    | _ => some (a, rest)

/-- Read the question whether an array has a key. -/
def readIn : Nat → Standing → List Token → Option (Expr × List Token)
  | 0, _, _ => none
  | fuel + 1, at_, ts => do
    let (a, rest) ← readFits fuel at_ ts
    readInRest fuel at_ a rest

/-- Read what follows a key. -/
def readInRest : Nat → Standing → Expr → List Token → Option (Expr × List Token)
  | 0, _, _, _ => none
  | fuel + 1, at_, a, ts =>
    match at_.inHead, ts with
    | false, .word "in" :: .name n :: rest =>
      let keys := match a with
        | .group es => es
        | e => [e]
      readInRest fuel at_ (.has keys n) rest
    | _, _ => some (a, ts)

/-- Read matches against regular expressions. -/
def readFits : Nat → Standing → List Token → Option (Expr × List Token)
  | 0, _, _ => none
  | fuel + 1, at_, ts => do
    let (a, rest) ← readCompare fuel at_ ts
    readFitsRest fuel at_ a rest

/-- Read what follows a text that is matched. -/
def readFitsRest : Nat → Standing → Expr → List Token → Option (Expr × List Token)
  | 0, _, _, _ => none
  | fuel + 1, at_, a, ts =>
    let against (negated : Bool) (rest : List Token) : Option (Expr × List Token) := do
      let (b, rest) ← readCompare fuel at_ rest
      readFitsRest fuel at_ (.fits negated a b) rest
    match ts with
    | .sign "~" :: rest => against false rest
    | .sign "!~" :: rest => against true rest
    | _ => some (a, ts)

/-- Read a comparison. -/
def readCompare : Nat → Standing → List Token → Option (Expr × List Token)
  | 0, _, _ => none
  | fuel + 1, at_, ts => do
    let (a, rest) ← readPiped fuel at_ ts
    match rest with
    | t :: more =>
      match comparison? at_ t with
      | some op =>
        let (b, rest) ← readPiped fuel at_ more
        some (.compare op a b, rest)
      | none => some (a, rest)
    | [] => some (a, [])

/-- Read texts that may be commands whose output is asked for. -/
def readPiped : Nat → Standing → List Token → Option (Expr × List Token)
  | 0, _, _ => none
  | fuel + 1, at_, ts => do
    let (a, rest) ← readConcat fuel at_ ts
    readPipedRest fuel a rest

/-- Read what follows a command whose output is asked for. -/
def readPipedRest : Nat → Expr → List Token → Option (Expr × List Token)
  | 0, _, _ => none
  | fuel + 1, a, ts =>
    match ts with
    | .sign "|" :: .word "getline" :: rest => do
      let (target, rest) ← readTarget fuel rest
      readPipedRest fuel (.record .command (some a) target) rest
    | _ => some (a, ts)

/-- Read the place for a record, if there is one. -/
def readTarget : Nat → List Token → Option (Option Expr × List Token)
  | 0, _ => none
  | fuel + 1, ts =>
    match ts with
    | .name _ :: _ => (readPlace fuel ts).map fun (e, rest) => (some e, rest)
    | .sign "$" :: _ => (readPlace fuel ts).map fun (e, rest) => (some e, rest)
    | _ => some (none, ts)

/-- Read texts that are put one behind the other. -/
def readConcat : Nat → Standing → List Token → Option (Expr × List Token)
  | 0, _, _ => none
  | fuel + 1, at_, ts => do
    let (a, rest) ← readSum fuel at_ ts
    readConcatRest fuel at_ a rest

/-- Read what is put behind a text. -/
def readConcatRest : Nat → Standing → Expr → List Token → Option (Expr × List Token)
  | 0, _, _, _ => none
  | fuel + 1, at_, a, ts =>
    match ts with
    | t :: _ =>
      if startsOperand t then do
        let (b, rest) ← readSum fuel at_ ts
        readConcatRest fuel at_ (.concat a b) rest
      else some (a, ts)
    | [] => some (a, [])

/-- Read sums. -/
def readSum : Nat → Standing → List Token → Option (Expr × List Token)
  | 0, _, _ => none
  | fuel + 1, at_, ts => do
    let (a, rest) ← readProduct fuel at_ ts
    readSumRest fuel at_ a rest

/-- Read what is added. -/
def readSumRest : Nat → Standing → Expr → List Token → Option (Expr × List Token)
  | 0, _, _, _ => none
  | fuel + 1, at_, a, ts =>
    let next (op : Arithmetic) (rest : List Token) : Option (Expr × List Token) := do
      let (b, rest) ← readProduct fuel at_ rest
      readSumRest fuel at_ (.arithmetic op a b) rest
    match ts with
    | .sign "+" :: rest => next .add rest
    | .sign "-" :: rest => next .sub rest
    | _ => some (a, ts)

/-- Read products. -/
def readProduct : Nat → Standing → List Token → Option (Expr × List Token)
  | 0, _, _ => none
  | fuel + 1, at_, ts => do
    let (a, rest) ← readSigned fuel at_ ts
    readProductRest fuel at_ a rest

/-- Read factors. -/
def readProductRest : Nat → Standing → Expr → List Token → Option (Expr × List Token)
  | 0, _, _, _ => none
  | fuel + 1, at_, a, ts =>
    let next (op : Arithmetic) (rest : List Token) : Option (Expr × List Token) := do
      let (b, rest) ← readSigned fuel at_ rest
      readProductRest fuel at_ (.arithmetic op a b) rest
    match ts with
    | .sign "*" :: rest => next .mul rest
    | .sign "/" :: rest => next .div rest
    | .sign "%" :: rest => next .mod rest
    | _ => some (a, ts)

/-- Read an expression with a sign in front. -/
def readSigned : Nat → Standing → List Token → Option (Expr × List Token)
  | 0, _, _ => none
  | fuel + 1, at_, ts =>
    match ts with
    | .sign "!" :: rest => (readSigned fuel at_ rest).map fun (e, rest) => (.not e, rest)
    | .sign "-" :: rest => (readSigned fuel at_ rest).map fun (e, rest) => (.negative e, rest)
    | .sign "+" :: rest => (readSigned fuel at_ rest).map fun (e, rest) => (.plain e, rest)
    | _ => readPower fuel at_ ts

/-- Read powers. -/
def readPower : Nat → Standing → List Token → Option (Expr × List Token)
  | 0, _, _ => none
  | fuel + 1, at_, ts => do
    let (a, rest) ← readStepped fuel at_ ts
    match rest with
    | .sign "^" :: rest =>
      let (b, rest) ← readSigned fuel at_ rest
      some (.arithmetic .pow a b, rest)
    | _ => some (a, rest)

/-- Read an operand, which may be a place that is counted up or down or gets a value. -/
def readStepped : Nat → Standing → List Token → Option (Expr × List Token)
  | 0, _, _ => none
  | fuel + 1, at_, ts => do
    let (a, rest) ← readOperand fuel at_ ts
    if !a.isPlace then some (a, rest)
    else
      match rest with
      | .sign "++" :: rest => some (.step false 1 a, rest)
      | .sign "--" :: rest => some (.step false (-1) a, rest)
      | t :: more =>
        match assignment? t with
        | some op =>
          let (value, rest) ← readExpr fuel at_ (skipNewlines more)
          some (.assign op a value, rest)
        | none => some (a, rest)
      | [] => some (a, [])

/-- Read a place. -/
def readPlace : Nat → List Token → Option (Expr × List Token)
  | 0, _ => none
  | fuel + 1, ts =>
    match ts with
    | .sign "$" :: .sign "++" :: rest =>
      (readPlace fuel rest).map fun (e, rest) => (.field (.step true 1 e), rest)
    | .sign "$" :: .sign "--" :: rest =>
      (readPlace fuel rest).map fun (e, rest) => (.field (.step true (-1) e), rest)
    | .sign "$" :: .sign "-" :: rest =>
      (readPlace fuel rest).map fun (e, rest) => (.field (.negative e), rest)
    | .sign "$" :: rest =>
      (readOperand fuel {} rest).map fun (e, rest) => (.field e, rest)
    | .name n :: .sign "[" :: rest => do
      let (keys, rest) ← readExprs fuel {} rest
      let rest ← expect "]" rest
      some (.item n keys, rest)
    | .name n :: rest => some (.var n, rest)
    | _ => none

/-- Read an operand. -/
def readOperand : Nat → Standing → List Token → Option (Expr × List Token)
  | 0, _, _ => none
  | fuel + 1, at_, ts =>
    match ts with
    | .number n :: rest => some (.number n, rest)
    | .text t :: rest => some (.text t, rest)
    | .regex t :: rest => some (.regex (regexOf t), rest)
    | .sign "++" :: rest => (readPlace fuel rest).map fun (e, rest) => (.step true 1 e, rest)
    | .sign "--" :: rest => (readPlace fuel rest).map fun (e, rest) => (.step true (-1) e, rest)
    | .sign "(" :: rest => do
      let (es, rest) ← readExprs fuel {} (skipNewlines rest)
      let rest ← expect ")" (skipNewlines rest)
      some (.group es, rest)
    | .callee n :: .sign "(" :: .sign ")" :: rest => some (.call n [], rest)
    | .callee n :: .sign "(" :: rest => do
      let (args, rest) ← readExprs fuel {} (skipNewlines rest)
      let rest ← expect ")" (skipNewlines rest)
      some (.call n args, rest)
    | .known n :: .sign "(" :: .sign ")" :: rest => some (.known n [], rest)
    | .known n :: .sign "(" :: rest => do
      let (args, rest) ← readExprs fuel {} (skipNewlines rest)
      let rest ← expect ")" (skipNewlines rest)
      some (.known n args, rest)
    | .known "length" :: rest => some (.known "length" [], rest)
    | .word "getline" :: rest => do
      let (target, rest) ← readTarget fuel rest
      match rest with
      | .sign "<" :: rest =>
        let (source, rest) ← readOperand fuel at_ rest
        some (.record .file (some source) target, rest)
      | _ => some (.record .main none target, rest)
    | _ => readPlace fuel ts

/-- Read expressions with commas between them. -/
def readExprs : Nat → Standing → List Token → Option (List Expr × List Token)
  | 0, _, _ => none
  | fuel + 1, at_, ts => do
    let (e, rest) ← readExpr fuel at_ ts
    match rest with
    | .sign "," :: rest =>
      let (es, rest) ← readExprs fuel at_ (skipNewlines rest)
      some (e :: es, rest)
    | _ => some ([e], rest)

end

/-- Read what a command that prints is given, and where its output goes. -/
def readOutput (fuel : Nat) (ts : List Token) :
    Option ((List Expr × Option (Outlet × Expr)) × List Token) := do
  let (args, rest) ←
    if endsStatement ts then some ([], ts) else readExprs fuel { inPrint := true } ts
  let args := match args with
    | [.group es] => es
    | es => es
  let target (outlet : Outlet) (rest : List Token) :
      Option ((List Expr × Option (Outlet × Expr)) × List Token) :=
    (readConcat fuel { inPrint := true } rest).map fun (e, rest) => ((args, some (outlet, e)), rest)
  match rest with
  | .sign ">" :: rest => target .file rest
  | .sign ">>" :: rest => target .append rest
  | .sign "|" :: rest => target .command rest
  | _ => some ((args, none), rest)

/-- Read a statement that ends with its line. -/
def readSimple (fuel : Nat) (ts : List Token) : Option (Statement × List Token) :=
  let optional (make : Option Expr → Statement) (rest : List Token) :
      Option (Statement × List Token) :=
    if endsStatement rest then some (make none, rest)
    else (readExpr fuel {} rest).map fun (e, rest) => (make (some e), rest)
  match ts with
  | .word "print" :: rest =>
    (readOutput fuel rest).map fun ((args, outlet), rest) => (.print args outlet, rest)
  | .word "printf" :: rest =>
    (readOutput fuel rest).map fun ((args, outlet), rest) => (.printf args outlet, rest)
  | .word "break" :: rest => some (.break, rest)
  | .word "continue" :: rest => some (.continue, rest)
  | .word "next" :: rest => some (.next, rest)
  | .word "nextfile" :: rest => some (.nextFile, rest)
  | .word "exit" :: rest => optional .exit rest
  | .word "return" :: rest => optional .return rest
  | .word "delete" :: .name n :: .sign "[" :: rest => do
    let (keys, rest) ← readExprs fuel {} rest
    let rest ← expect "]" rest
    some (.delete n (some keys), rest)
  | .word "delete" :: .name n :: rest => some (.delete n none, rest)
  | _ => (readExpr fuel {} ts).map fun (e, rest) => (.expr e, rest)

/-- The words behind the end of a statement. -/
def afterStatement : List Token → Option (List Token)
  | [] => some []
  | .newline :: rest => some rest
  | .sign ";" :: rest => some rest
  | .sign "\x7d" :: rest => some (.sign "\x7d" :: rest)
  | _ => none

mutual

/-- Read a statement. -/
def readStatement : Nat → List Token → Option (Statement × List Token)
  | 0, _ => none
  | fuel + 1, ts =>
    let condition (rest : List Token) : Option (Expr × List Token) := do
      let rest ← expect "(" rest
      let (c, rest) ← readExpr fuel {} rest
      let rest ← expect ")" rest
      some (c, rest)
    let optional (rest : List Token) : Option (Option Expr × List Token) :=
      match rest with
      | .sign ";" :: _ => some (none, rest)
      | .sign ")" :: _ => some (none, rest)
      | _ => (readExpr fuel {} rest).map fun (e, rest) => (some e, rest)
    match ts with
    | .sign ";" :: rest => some (.block [], rest)
    | .newline :: rest => readStatement fuel rest
    | .sign "\x7b" :: rest => readBlock fuel rest
    | .word "if" :: rest => do
      let (c, rest) ← condition rest
      let (yes, rest) ← readStatement fuel (skipNewlines rest)
      match skipEnds rest with
      | .word "else" :: more =>
        let (no, rest) ← readStatement fuel (skipNewlines more)
        some (.choose c yes no, rest)
      | _ => some (.choose c yes (.block []), rest)
    | .word "while" :: rest => do
      let (c, rest) ← condition rest
      match rest with
      | .sign ";" :: rest => some (.whilst c (.block []), rest)
      | _ =>
        let (body, rest) ← readStatement fuel (skipNewlines rest)
        some (.whilst c body, rest)
    | .word "do" :: rest => do
      let (body, rest) ← readStatement fuel (skipNewlines rest)
      match skipEnds rest with
      | .word "while" :: rest =>
        let (c, rest) ← condition rest
        let rest ← afterStatement rest
        some (.doWhile body c, rest)
      | _ => none
    | .word "for" :: .sign "(" :: .name k :: .word "in" :: .name a :: .sign ")" :: rest => do
      let (body, rest) ← readStatement fuel (skipNewlines rest)
      some (.each k a body, rest)
    | .word "for" :: rest => do
      let rest ← expect "(" rest
      let (start, rest) ← optional rest
      let rest ← expect ";" rest
      let (c, rest) ← optional (skipNewlines rest)
      let rest ← expect ";" rest
      let (step, rest) ← optional (skipNewlines rest)
      let rest ← expect ")" rest
      let plain (e : Option Expr) : Statement := match e with
        | some e => .expr e
        | none => .block []
      match rest with
      | .sign ";" :: rest => some (.loop (plain start) c (plain step) (.block []), rest)
      | _ =>
        let (body, rest) ← readStatement fuel (skipNewlines rest)
        some (.loop (plain start) c (plain step) body, rest)
    | _ => do
      let (s, rest) ← readSimple (40 * (ts.length + 2)) ts
      let rest ← afterStatement rest
      some (s, rest)

/-- Read statements up to the brace that closes them. -/
def readBlock : Nat → List Token → Option (Statement × List Token)
  | 0, _ => none
  | fuel + 1, ts =>
    match skipEnds ts with
    | .sign "\x7d" :: rest => some (.block [], rest)
    | ts => do
      let (s, rest) ← readStatement fuel ts
      let (more, rest) ← readBlock fuel rest
      match more with
      | .block body => some (.block (s :: body), rest)
      | other => some (.block [s, other], rest)

end

/-- Read the names of parameters, which have commas between them. -/
def readNames : List Token → Option (List Raw)
  | [] => some []
  | [.name n] => some [n]
  | .name n :: .sign "," :: rest => (readNames rest).map (n :: ·)
  | _ => none

/-- Read the parameters of a function. -/
def readParams (ts : List Token) : Option (List Raw × List Token) := do
  let isInside : Token → Bool
    | .sign ")" => false
    | _ => true
  let isBreak : Token → Bool
    | .newline => true
    | _ => false
  let inner := ts.takeWhile isInside
  let names ← readNames (inner.filter fun t => !isBreak t)
  some (names, ts.drop (inner.length + 1))

/-- Read rules and functions, in at most `fuel` steps. -/
def readItems : Nat → List Token → Option Program
  | 0, _ => none
  | fuel + 1, ts =>
    let size := 40 * (ts.length + 2)
    let withRule (pattern : Pattern) (rest : List Token) : Option Program := do
      match rest with
      | .sign "\x7b" :: rest =>
        let (action, rest) ← readBlock size rest
        let p ← readItems fuel rest
        some { p with rules := ⟨pattern, some action⟩ :: p.rules }
      | _ =>
        let p ← readItems fuel rest
        some { p with rules := ⟨pattern, none⟩ :: p.rules }
    let withFunction (name : Raw) (rest : List Token) : Option Program := do
      let rest ← expect "(" rest
      let (params, rest) ← readParams rest
      let rest ← expect "\x7b" (skipNewlines rest)
      let (body, rest) ← readBlock size rest
      let p ← readItems fuel rest
      some { p with functions := ⟨name, params, body⟩ :: p.functions }
    match skipEnds ts with
    | [] => some ⟨[], []⟩
    | .word "BEGIN" :: rest => withRule .start (skipNewlines rest)
    | .word "END" :: rest => withRule .finish (skipNewlines rest)
    | .word w :: .callee name :: rest =>
      if w = "function" ∨ w = "func" then withFunction name rest else none
    | .word w :: .name name :: rest =>
      if w = "function" ∨ w = "func" then withFunction name rest else none
    | .sign "\x7b" :: rest => withRule .every (.sign "\x7b" :: rest)
    | ts => do
      let (a, rest) ← readExpr size {} ts
      match rest with
      | .sign "," :: rest =>
        let (b, rest) ← readExpr size {} (skipNewlines rest)
        withRule (.between a b) rest
      | _ => withRule (.whenever a) rest

/-- Read a program; `none` if it is badly formed. -/
def Program.read? (text : Raw) : Option Program := do
  let ts ← tokens? text
  readItems (ts.length + 1) ts

end NativeBuild.Tool.Awk
