import NativeBuild.Userland.Shell.Grammar

/-!
Reading scripts.  A reader answers with what it read and the text that is left, or with `none` for a
text that breaks the grammar.
-/

namespace NativeBuild.Shell

mutual

/-- Read the parts of a text up to its end, `depth` brackets deep. -/
def readPieces : Nat → Grammar → Ending → Nat → Raw → Option (Word × Raw)
  | 0, _, _, _, _ => none
  | _, _, e, _, [] => if e.mayEnd then some ([], []) else none
  | fuel + 1, g, e, depth, c :: rest =>
    let isRegular (d : Char) : Bool :=
      !(e.stops d || d = '\\' || d = '\'' || d = '"' || d = '$' || d = backquote || d = '?' ||
        d = '*' || d = '+' || d = '@' || d = '!' ||
        ((e.nests.map fun (a, b) => d = a || d = b).getD false))
    let literal (text : Raw) : Piece := if e.isQuoted then .quoted text else .plain text
    let goOn (first : Word) (depth : Nat) (rest : Raw) : Option (Word × Raw) := do
      let (more, rest) ← readPieces fuel g e depth rest
      some (first ++ more, rest)
    let opens := (e.nests.map fun (a, _) => c = a).getD false
    let closes := (e.nests.map fun (_, b) => c = b).getD false
    if opens then goOn [literal [c]] (depth + 1) rest
    else if closes && depth ≠ 0 then goOn [literal [c]] (depth - 1) rest
    else if g.isRich && !e.isQuoted && (c = '<' || c = '>') && rest.head? = some '(' then do
      let (text, rest) ← readEnclosed fuel g (rest.drop 1)
      goOn [.channel (c = '<') text] depth rest
    else if e.stops c && depth = 0 then some ([], c :: rest)
    else if c = '\\' then
      match rest with
      | [] => goOn [.quoted ['\\']] depth []
      | '\n' :: rest => goOn [] depth rest
      | d :: more =>
        if !e.isQuoted || d = '$' || d = backquote || d = '\\' || e.stops d ||
            (d = '"' && e.skipsQuotes) then
          goOn [.quoted [d]] depth more
        else goOn [.quoted ['\\']] depth rest
    else if c = '\'' && !e.isQuoted then
      match Text.cut '\'' rest with
      | (inner, some rest) => goOn [.quoted inner] depth rest
      | (_, none) => none
    else if c = '"' && !e.isQuoted then do
      let (inner, rest) ← readPieces fuel g .double 0 rest
      goOn (.quoted [] :: inner) depth (rest.drop 1)
    else if c = '"' && e.skipsQuotes then goOn [] depth rest
    else if c = '$' then do
      let (first, rest) ← readDollar fuel g e.isQuoted rest
      goOn first depth rest
    else if c = backquote then do
      let (inner, rest) ← untilBackquote e.isQuoted rest
      goOn [.output inner e.isQuoted] depth rest
    else if g.choices && !e.isQuoted && ['?', '*', '+', '@', '!'].contains c &&
        rest.head? = some '(' then do
      let (inner, rest) ← readPieces fuel g .choices 0 (rest.drop 1)
      goOn (.plain [c, '('] :: inner ++ [.plain [')']]) depth (rest.drop 1)
    else goOn [literal (c :: rest.takeWhile isRegular)] depth (rest.dropWhile isRegular)

/-- Read what follows a dollar sign. -/
def readDollar : Nat → Grammar → Bool → Raw → Option (Word × Raw)
  | 0, _, _, _ => none
  | fuel + 1, g, isQuoted, text =>
    let alone : Piece := if isQuoted then .quoted ['$'] else .plain ['$']
    let script (rest : Raw) : Option (Word × Raw) := do
      let (inner, rest) ← readEnclosed fuel g rest
      some ([.output inner isQuoted], rest)
    match text with
    | '\x7b' :: rest => readBraced fuel g isQuoted rest
    | '(' :: '(' :: rest =>
      match readPieces fuel g .sum 0 rest with
      | some (inner, ')' :: ')' :: rest) => some ([.sum inner isQuoted], rest)
      | _ => if g.isRich then script ('(' :: rest) else none
    | '(' :: rest => script rest
    | '\'' :: rest =>
      if g.isRich && !isQuoted then do
        let (inner, rest) ← untilDollarQuote (rest.length + 1) rest
        some ([.quoted inner], rest)
      else some ([alone], text)
    | '"' :: rest =>
      if g.isRich && !isQuoted then do
        let (inner, rest) ← readPieces fuel g .double 0 rest
        some (.quoted [] :: inner, rest.drop 1)
      else some ([alone], text)
    | c :: rest =>
      if Text.isDigit c then some ([.value [c] false .none .plain isQuoted], rest)
      else
        let (name, rest) := takeName (c :: rest)
        if name.isEmpty then some ([alone], text)
        else some ([.value name false .none .plain isQuoted], rest)
    | [] => some ([alone], [])

/-- Read a script up to the bracket that closes it: its text, and what follows the bracket. -/
def readEnclosed : Nat → Grammar → Raw → Option (Raw × Raw)
  | 0, _, _ => none
  | fuel + 1, g, text => do
    let (_, rest) ← readList fuel g text
    match rest with
    | ')' :: after => some (text.take (text.length - rest.length), after)
    | _ => none

/-- Read what stands between the braces of a value. -/
def readBraced : Nat → Grammar → Bool → Raw → Option (Word × Raw)
  | 0, _, _, _ => none
  | fuel + 1, g, isQuoted, text => do
    let isLength := text.head? = some '#' &&
      !(text.drop 1 = [] || ['\x7d', ':', '-', '=', '+', '%'].contains ((text.drop 1).headD ' '))
    let isLength := isLength || ("#-\x7d".toList.isPrefixOf text)
    let through := g.isRich && text.head? = some '!' &&
      ((text.drop 1).head?.map fun c => isNameChar c || c = '#' || c = '@').getD false
    let body := if isLength || through then text.drop 1 else text
    let (name, rest) := takeName body
    let (index, rest) ← readIndex fuel g rest
    let made (rule : ValueRule) (rest : Raw) : Option (Word × Raw) :=
      match rest with
      | '\x7d' :: rest => some ([.value name through index rule isQuoted], rest)
      | _ => none
    let bad : Option (Word × Raw) := do
      let (_, rest) ← readPieces fuel g (.brace isQuoted) 0 rest
      some ([.broken], rest.drop 1)
    let worded (make : Word → ValueRule) (rest : Raw) : Option (Word × Raw) := do
      let (w, rest) ← readPieces fuel g (.brace isQuoted) 0 rest
      made (make w) rest
    let patterned (make : Word → ValueRule) (rest : Raw) : Option (Word × Raw) := do
      let (w, rest) ← readPieces fuel g (.brace false) 0 rest
      made (make w) rest
    if name.isEmpty then bad
    else if isLength then
      match rest with
      | '\x7d' :: _ => made .length rest
      | _ => bad
    else
      match g.isRich && !(through && index matches .every _), rest with
      | _, '\x7d' :: _ => made (if through && index matches .every _ then .keys else .plain) rest
      | _, ':' :: '-' :: rest => worded (.default true) rest
      | _, ':' :: '=' :: rest => worded (.assign true) rest
      | _, ':' :: '+' :: rest => worded (.alternative true) rest
      | _, ':' :: '?' :: rest => worded (.demand true) rest
      | _, '-' :: rest => worded (.default false) rest
      | _, '=' :: rest => worded (.assign false) rest
      | _, '+' :: rest => worded (.alternative false) rest
      | _, '?' :: rest => worded (.demand false) rest
      | _, '#' :: '#' :: rest => patterned (.dropFront true) rest
      | _, '#' :: rest => patterned (.dropFront false) rest
      | _, '%' :: '%' :: rest => patterned (.dropBack true) rest
      | _, '%' :: rest => patterned (.dropBack false) rest
      | true, '@' :: '\x7d' :: rest =>
        if through then some ([.value name true index .names isQuoted], rest) else bad
      | true, '*' :: '\x7d' :: rest =>
        if through then some ([.value name true index .names isQuoted], rest) else bad
      | true, '@' :: how :: rest => made (.shown how) rest
      | true, '^' :: '^' :: rest => patterned (.recase .upper true) rest
      | true, '^' :: rest => patterned (.recase .upper false) rest
      | true, ',' :: ',' :: rest => patterned (.recase .lower true) rest
      | true, ',' :: rest => patterned (.recase .lower false) rest
      | true, '~' :: '~' :: rest => patterned (.recase .other true) rest
      | true, '~' :: rest => patterned (.recase .other false) rest
      | true, ':' :: rest => do
        let (offset, rest) ← readPieces fuel g (.braceUntil ':') 0 rest
        match rest with
        | ':' :: rest =>
          let (count, rest) ← readPieces fuel g (.brace false) 0 rest
          made (.part offset (some count)) rest
        | _ => made (.part offset none) rest
      | true, '/' :: rest => do
        let (rule, rest) : ReplaceRule × Raw :=
          match rest with
          | '/' :: rest => (.all, rest)
          | '#' :: rest => (.front, rest)
          | '%' :: rest => (.back, rest)
          | _ => (.first, rest)
        let (pattern, rest) ← readPieces fuel g (.braceUntil '/') 0 rest
        match rest with
        | '/' :: rest =>
          let (w, rest) ← readPieces fuel g (.brace false) 0 rest
          made (.replace rule pattern w) rest
        | _ => made (.replace rule pattern []) rest
      | _, _ => bad

/-- Read the key of an item behind a name, if there is one. -/
def readIndex : Nat → Grammar → Raw → Option (Index × Raw)
  | 0, _, _ => none
  | fuel + 1, g, text =>
    match g.language, text with
    | .rich, '[' :: '@' :: ']' :: rest => some (.every false, rest)
    | .rich, '[' :: '*' :: ']' :: rest => some (.every true, rest)
    | .rich, '[' :: rest => do
      let (key, rest) ← readPieces fuel g .key 0 rest
      some (.item key, rest.drop 1)
    | _, _ => some (.none, text)

/-- Read commands up to the end of their list. -/
def readList : Nat → Grammar → Raw → Option (Script × Raw)
  | 0, _, _ => none
  | fuel + 1, g, text => do
    let text := skipLines text
    if endsList g text then some (.nothing, text)
    else
      let (first, rest) ← readChain fuel g text
      let goOn (first : Script) (rest : Raw) : Option (Script × Raw) := do
        let (second, rest) ← readList fuel g rest
        some (.join .always first second, rest)
      match rest with
      | ';' :: ';' :: _ => some (first, rest)
      | ';' :: '&' :: _ => some (first, rest)
      | ';' :: more => goOn first more
      | '&' :: more => goOn (.background first) more
      | '\n' :: more => goOn first more
      | _ => some (first, rest)

/-- Read commands up to the end of the line. -/
def readLine : Nat → Grammar → Raw → Option (Script × Raw)
  | 0, _, _ => none
  | fuel + 1, g, text => do
    let (first, rest) ← readChain fuel g text
    let goOn (first : Script) (rest : Raw) : Option (Script × Raw) :=
      match skipBlank rest with
      | [] => some (first, [])
      | '\n' :: rest => some (first, rest)
      | rest => do
        let (second, rest) ← readLine fuel g rest
        some (.join .always first second, rest)
    match rest with
    | [] => some (first, [])
    | '\n' :: rest => some (first, rest)
    | ';' :: ';' :: _ => none
    | ';' :: rest => goOn first rest
    | '&' :: rest => goOn (.background first) rest
    | _ => none

/-- Read pipelines that depend on each other. -/
def readChain : Nat → Grammar → Raw → Option (Script × Raw)
  | 0, _, _ => none
  | fuel + 1, g, text => do
    let (first, rest) ← readPipeline fuel g text
    readJoined fuel g first rest

/-- Read what depends on the pipeline before it. -/
def readJoined : Nat → Grammar → Script → Raw → Option (Script × Raw)
  | 0, _, _, _ => none
  | fuel + 1, g, first, text =>
    let goOn (joint : Joint) (rest : Raw) : Option (Script × Raw) := do
      let (second, rest) ← readPipeline fuel g (skipLines rest)
      readJoined fuel g (.join joint first second) rest
    match skipBlank text with
    | '&' :: '&' :: rest => goOn .success rest
    | '|' :: '|' :: rest => goOn .failure rest
    | text => some (first, text)

/-- Read a pipeline. -/
def readPipeline : Nat → Grammar → Raw → Option (Script × Raw)
  | 0, _, _ => none
  | fuel + 1, g, text =>
    let text := skipBlank text
    match keyword? g.language text with
    | some ("!", rest) => do
      match ← readPipeline fuel g rest with
      | (.pipe negated stages, rest) => some (.pipe (!negated) stages, rest)
      | (one, rest) => some (.pipe true [one], rest)
    | some ("time", rest) =>
      let rest := skipBlank rest
      readPipeline fuel g (((afterText? "-p" rest)).getD rest)
    | _ => do
      let (stages, rest) ← readStages fuel g text
      match stages with
      | [one] => some (one, rest)
      | _ => some (.pipe false stages, rest)

/-- Read the stages of a pipeline. -/
def readStages : Nat → Grammar → Raw → Option (List Script × Raw)
  | 0, _, _ => none
  | fuel + 1, g, text => do
    let (first, rest) ← readCommand fuel g text
    let goOn (first : Script) (rest : Raw) : Option (List Script × Raw) := do
      let (more, rest) ← readStages fuel g (skipLines rest)
      some (first :: more, rest)
    match g.language, skipBlank rest with
    | _, '|' :: '|' :: _ => some ([first], rest)
    | .rich, '|' :: '&' :: rest => goOn (.group first (withMessages [])) rest
    | _, '|' :: rest => goOn first rest
    | _, _ => some ([first], rest)

/-- Read a list of commands that is not empty, up to a reserved word, and the word. -/
def readUpTo : Nat → Grammar → String → Raw → Option (Script × Raw)
  | 0, _, _, _ => none
  | fuel + 1, g, word, text => do
    match ← readList fuel g text with
    | (.nothing, _) => none
    | (body, rest) => some (body, ← afterKeyword? g.language word rest)

/-- Read the branches of a choice, from a condition on. -/
def readBranches : Nat → Grammar → Raw → Option (Script × Raw)
  | 0, _, _ => none
  | fuel + 1, g, text => do
    let (condition, rest) ← readUpTo fuel g "then" text
    let (yes, rest) ← readList fuel g rest
    if yes matches .nothing then none
    match keyword? g.language rest with
    | some ("elif", rest) =>
      let (no, rest) ← readBranches fuel g rest
      some (.choose condition yes no, rest)
    | some ("else", rest) =>
      let (no, rest) ← readUpTo fuel g "fi" rest
      some (.choose condition yes no, rest)
    | some ("fi", rest) => some (.choose condition yes .nothing, rest)
    | _ => none

/-- Read the body of a loop between its marks. -/
def readBody : Nat → Grammar → Raw → Option (Script × Raw)
  | 0, _, _ => none
  | fuel + 1, g, text => do
    let text := skipBlank text
    let text := skipLines (if text.head? = some ';' then text.drop 1 else text)
    match keyword? g.language text with
    | some ("do", rest) => readUpTo fuel g "done" rest
    | some ("\x7b", rest) => if g.isRich then readUpTo fuel g "\x7d" rest else none
    | _ => none

/-- Read the patterns of an arm up to its closing bracket. -/
def readPatterns : Nat → Grammar → Raw → Option (List Word × Raw)
  | 0, _, _ => none
  | fuel + 1, g, text => do
    let (w, rest) ← readPieces fuel g .word 0 (skipBlank text)
    if w.isEmpty then none
    match skipBlank rest with
    | ')' :: rest => some ([w], rest)
    | '|' :: rest =>
      let (more, rest) ← readPatterns fuel g rest
      some (w :: more, rest)
    | _ => none

/-- Read the arms of a selection up to its end. -/
def readArms : Nat → Grammar → Raw → Option (List (List Word × Script × ArmEnd) × Raw)
  | 0, _, _ => none
  | fuel + 1, g, text => do
    let text := skipLines text
    match afterKeyword? g.language "esac" text with
    | some rest => some ([], rest)
    | none =>
      let (patterns, rest) ← readPatterns fuel g ((afterText? "(" text).getD text)
      let (body, rest) ← readList fuel g rest
      let goOn (ending : ArmEnd) (rest : Raw) :
          Option (List (List Word × Script × ArmEnd) × Raw) := do
        let (more, rest) ← readArms fuel g rest
        some ((patterns, body, ending) :: more, rest)
      match g.language, rest with
      | .rich, ';' :: ';' :: '&' :: rest => goOn .goOn rest
      | .rich, ';' :: '&' :: rest => goOn .fall rest
      | _, ';' :: ';' :: rest => goOn .stop rest
      | _, _ =>
        let rest ← afterKeyword? g.language "esac" rest
        some ([(patterns, body, .stop)], rest)

/-- Read a word, which must not be empty. -/
def readWord : Nat → Grammar → Raw → Option (Word × Raw)
  | 0, _, _ => none
  | fuel + 1, g, text => do
    let (w, rest) ← readPieces fuel g .word 0 (skipBlank text)
    if w.isEmpty then none else some (w, rest)

/-- Read the words of a list up to the end of the command. -/
def readWords : Nat → Grammar → Raw → Option (List Word × Raw)
  | 0, _, _ => none
  | fuel + 1, g, text =>
    match skipBlank text with
    | [] => some ([], [])
    | c :: rest =>
      if c = '\n' || c = ';' || c = '&' || c = '|' || c = ')' then some ([], c :: rest)
      else do
        let (w, rest) ← readWord fuel g (c :: rest)
        let (more, rest) ← readWords fuel g rest
        some (w :: more, rest)

/-- Read a redirection, if there is one. -/
def readRedirect : Nat → Grammar → Raw → Option (Option (List Redirect) × Raw)
  | 0, _, _ => none
  | fuel + 1, g, text => do
    let (descriptor, holder, rest) := redirectLead g text
    match redirectSign? g rest with
    | none => some (none, text)
    | some (.plain direction usual rest) =>
      let (target, rest) ← readWord fuel g rest
      if direction = .copy ∧ usual = 1 ∧ descriptor.isNone ∧ g.isRich ∧
          ((plainText? target).map fun t => !(t.all Text.isDigit || t = ['-'])).getD false then
        some (some (withMessages [⟨1, none, .output, target⟩]), rest)
      else some (some [⟨descriptor.getD usual, holder, direction, target⟩], rest)
    | some (.both direction rest) =>
      if descriptor.isSome ∨ holder.isSome then some (none, text)
      else
        let (target, rest) ← readWord fuel g rest
        some (some (withMessages [⟨1, none, direction, target⟩]), rest)
    | some (.text stripTabs rest) =>
      let (mark, rest) ← readWord fuel g rest
      let line := rest.takeWhile (· ≠ '\n')
      let after := (rest.dropWhile (· ≠ '\n')).drop 1
      let (body, after) := untilMark (markText mark) stripTabs (after.length + 1) after
      let content ← match plainText? mark with
        | some _ => (readPieces fuel g .lines 0 body).map Prod.fst
        | none => some [.quoted body]
      some (some [⟨descriptor.getD 0, holder, .text, content⟩], line ++ '\n' :: after)

/-- Read the redirections in front of a text. -/
def readRedirects : Nat → Grammar → Raw → Option (List Redirect × Raw)
  | 0, _, _ => none
  | fuel + 1, g, text => do
    match ← readRedirect fuel g (skipBlank text) with
    | (some first, rest) =>
      let (more, rest) ← readRedirects fuel g rest
      some (first ++ more, rest)
    | (none, rest) => some ([], rest)

/-- Read the items of a list up to its closing bracket. -/
def readItems : Nat → Grammar → Raw → Option (List (Option Word × Word) × Raw)
  | 0, _, _ => none
  | fuel + 1, g, text => do
    match skipLines text with
    | ')' :: rest => some ([], rest)
    | '[' :: rest =>
      let (key, after) ← readPieces fuel g .key 0 rest
      match after with
      | ']' :: '=' :: after =>
        let (w, after) ← readPieces fuel g .word 0 after
        let (more, after) ← readItems fuel g after
        some ((some key, w) :: more, after)
      | _ =>
        let (w, rest) ← readWord fuel g ('[' :: rest)
        let (more, rest) ← readItems fuel g rest
        some ((none, w) :: more, rest)
    | text =>
      let (w, rest) ← readWord fuel g text
      let (more, rest) ← readItems fuel g rest
      some ((none, w) :: more, rest)

/-- Read an assignment, if there is one. -/
def readAssign : Nat → Grammar → Raw → Option (Option Assign × Raw)
  | 0, _, _ => none
  | fuel + 1, g, text => do
    let name := text.takeWhile isNameChar
    let rest := text.drop name.length
    if !isName name then some (none, text)
    else
      let (key, rest) : Option Word × Raw :=
        match g.language, rest with
        | .rich, '[' :: inner =>
          match readPieces fuel g .key 0 inner with
          | some (key, ']' :: after) => (some key, after)
          | _ => (none, rest)
        | _, _ => (none, rest)
      let value (adds : Bool) (rest : Raw) : Option (Option Assign × Raw) := do
        match g.language, rest with
        | .rich, '(' :: rest =>
          let (items, rest) ← readItems fuel g rest
          some (some ⟨name, key, adds, .items items⟩, rest)
        | _, _ =>
          let (w, rest) ← readPieces fuel g .word 0 rest
          some (some ⟨name, key, adds, .word w⟩, rest)
      match g.language, rest with
      | _, '=' :: rest => value false rest
      | .rich, '+' :: '=' :: rest => value true rest
      | _, _ => some (none, text)

/-- Read the words, assignments and redirections of a simple command. -/
def readSimple :
    Nat → Grammar → List Assign → List Argument → List Redirect → Raw → Option (Script × Raw)
  | 0, _, _, _, _, _ => none
  | fuel + 1, g, assigns, words, redirects, text => do
    let text := skipBlank text
    let finish : Option (Script × Raw) :=
      if assigns.isEmpty && words.isEmpty && redirects.isEmpty then none
      else some (.simple assigns words redirects, text)
    match ← readRedirect fuel g text with
    | (some more, rest) => readSimple fuel g assigns words (redirects ++ more) rest
    | (none, _) =>
      let isChannel := g.isRich && (("<(".toList).isPrefixOf text || (">(".toList).isPrefixOf text)
      if (text.head?.map isBreak).getD true && !isChannel then
        if text.head? = some '(' then none else finish
      else
        let mayAssign := words.isEmpty ||
          (match words.head? with
            | some (.word w) => g.isRich &&
              ((plainText? w).map fun t => assigners.contains (String.ofList t)).getD false
            | _ => false)
        let assigned ← if mayAssign then readAssign fuel g text else some (none, text)
        match assigned with
        | (some a, rest) =>
          if words.isEmpty then readSimple fuel g (assigns ++ [a]) words redirects rest
          else readSimple fuel g assigns (words ++ [.assign a]) redirects rest
        | (none, _) =>
          let ahead := plainAhead text
          let other := if words.isEmpty && ((text.drop ahead.length).head?.map isBreak).getD true
            then g.aliases.lookup ahead else none
          match other with
          | some meaning =>
            let g := { g with aliases := g.aliases.filter (·.1 ≠ ahead) }
            readSimple fuel g assigns words redirects (meaning ++ ' ' :: text.drop ahead.length)
          | none =>
            let (w, rest) ← readPieces fuel g .word 0 text
            readSimple fuel g assigns (words ++ [.word w]) redirects rest

/-- Read a condition in double brackets: choices. -/
def readEither : Nat → Grammar → Raw → Option (Condition × Raw)
  | 0, _, _ => none
  | fuel + 1, g, text => do
    let (a, rest) ← readBoth fuel g text
    match skipLines rest with
    | '|' :: '|' :: rest =>
      let (b, rest) ← readEither fuel g rest
      some (.either a b, rest)
    | rest => some (a, rest)

/-- Read a condition in double brackets: what must hold together. -/
def readBoth : Nat → Grammar → Raw → Option (Condition × Raw)
  | 0, _, _ => none
  | fuel + 1, g, text => do
    let (a, rest) ← readHolds fuel g text
    match skipLines rest with
    | '&' :: '&' :: rest =>
      let (b, rest) ← readBoth fuel g rest
      some (.both a b, rest)
    | rest => some (a, rest)

/-- Read a condition in double brackets: one test. -/
def readHolds : Nat → Grammar → Raw → Option (Condition × Raw)
  | 0, _, _ => none
  | fuel + 1, g, text => do
    let text := skipLines text
    let ahead := String.ofList (plainAhead text)
    match text with
    | '(' :: rest =>
      let (c, rest) ← readEither fuel g rest
      match skipLines rest with
      | ')' :: rest => some (c, rest)
      | _ => none
    | _ =>
      if ahead = "!" then do
        let (c, rest) ← readHolds fuel g (text.drop 1)
        some (.not c, rest)
      else do
        let (a, rest) ← readPieces fuel g .word 0 text
        if a.isEmpty then none
        let isUnary := ahead.length = 2 && ahead.front = '-'
        let next := skipLines rest
        let op := match next with
          | '<' :: _ => ['<']
          | '>' :: _ => ['>']
          | _ => plainAhead next
        if conditionOperators.contains (String.ofList op) then
          let after := skipLines (next.drop op.length)
          let (b, rest) ←
            if op = ['=', '~'] then readPieces fuel g .regex 0 after
            else readPieces fuel { g with choices := true } .word 0 after
          some (.binary op a b, rest)
        else if isUnary && !(next.head?.map fun c => c = ')' || c = '&' || c = '|').getD true &&
            op ≠ "]]".toList then
          let (b, rest) ← readPieces fuel g .word 0 next
          some (.unary ahead.toList b, rest)
        else some (.holds a, rest)

/-- Read one command. -/
def readCommand : Nat → Grammar → Raw → Option (Script × Raw)
  | 0, _, _ => none
  | fuel + 1, g, text => do
    let text := skipBlank text
    let wrapped (body : Script) (rest : Raw) : Option (Script × Raw) := do
      let (redirects, rest) ← readRedirects fuel g rest
      some (if redirects.isEmpty then body else .group body redirects, rest)
    let looped (whileFails : Bool) (rest : Raw) : Option (Script × Raw) := do
      let (condition, rest) ← readList fuel g rest
      if condition matches .nothing then none
      let (body, rest) ← readBody fuel g rest
      wrapped (.loop whileFails condition body) rest
    let defined (name rest : Raw) : Option (Script × Raw) := do
      let (body, rest) ← readCommand fuel g (skipLines rest)
      some (.define name body, rest)
    let simple : Option (Script × Raw) := do
      let name := plainAhead text
      match skipBlank (text.drop name.length) with
      | '(' :: rest =>
        match skipBlank rest with
        | ')' :: rest =>
          let isFree := if g.isRich then !name.contains '='
            else isName name && !specialNames.contains (String.ofList name)
          if isFree then defined name rest
          else if g.isRich then readSimple fuel g [] [] [] text
          else none
        | _ => readSimple fuel g [] [] [] text
      | _ => readSimple fuel g [] [] [] text
    let nested (rest : Raw) : Option (Script × Raw) := do
      let (body, rest) ← readList fuel g rest
      if body matches .nothing then none
      match rest with
      | ')' :: rest =>
        let (redirects, rest) ← readRedirects fuel g rest
        some (.nested body redirects, rest)
      | _ => none
    match keyword? g.language text with
    | some ("if", rest) => do
      let (body, rest) ← readBranches fuel g rest
      wrapped body rest
    | some ("while", rest) => looped false rest
    | some ("until", rest) => looped true rest
    | some ("for", rest) =>
      let rest := skipBlank rest
      match g.isRich, rest with
      | true, '(' :: '(' :: rest => do
        let (start, rest) ← readPieces fuel g .sumPart 0 rest
        let (test, rest) ← readPieces fuel g .sumPart 0 (← afterText? ";" rest)
        let (step, rest) ← readPieces fuel g .sumPart 0 (← afterText? ";" rest)
        let (body, rest) ← readBody fuel g (← afterText? "))" rest)
        wrapped (.count start test step body) rest
      | _, _ => do
        let name := plainAhead rest
        if !isName name then none
        let rest := rest.drop name.length
        match afterKeyword? g.language "in" (skipLines rest) with
        | some rest =>
          let (words, rest) ← readWords fuel g rest
          let (body, rest) ← readBody fuel g rest
          wrapped (.each name (some words) body) rest
        | none =>
          let (body, rest) ← readBody fuel g rest
          wrapped (.each name none body) rest
    | some ("case", rest) => do
      let (w, rest) ← readWord fuel g rest
      let rest ← afterKeyword? g.language "in" (skipLines rest)
      let (arms, rest) ← readArms fuel g rest
      wrapped (.select w arms) rest
    | some ("\x7b", rest) => do
      let (body, rest) ← readUpTo fuel g "\x7d" rest
      wrapped (.group body []) rest
    | some ("[[", rest) => do
      let (c, rest) ← readEither fuel g rest
      let rest ← afterKeyword? g.language "]]" (skipLines rest)
      wrapped (.test c) rest
    | some ("function", rest) =>
      let rest := skipBlank rest
      let name := plainAhead rest
      let rest := skipBlank (rest.drop name.length)
      match rest with
      | '(' :: more =>
        match skipBlank more with
        | ')' :: more => defined name more
        | _ => defined name rest
      | _ => defined name rest
    | some _ => none
    | none =>
      match g.isRich, text with
      | true, '(' :: '(' :: rest =>
        match readPieces fuel g .sum 0 rest with
        | some (inner, ')' :: ')' :: rest) => wrapped (.reckon inner) rest
        | _ => nested ('(' :: rest)
      | _, '(' :: rest => nested rest
      | _, _ => simple

end

/-- What the text of a script starts with: nothing more, a line of commands and what follows it, or
something that breaks the grammar. -/
inductive NextLine where
  | done
  | line (script : Script) (rest : Raw)
  | fault

/-- Read the next line of a script. -/
def nextLine (g : Grammar) (text : Raw) : NextLine :=
  match skipLines text with
  | [] => .done
  | text =>
    match readLine (16 * text.length + 64) g text with
    | some (script, rest) => .line script rest
    | none => .fault

end NativeBuild.Shell
