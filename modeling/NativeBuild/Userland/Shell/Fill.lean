import NativeBuild.Userland.Shell.Brace
import NativeBuild.Userland.Shell.Fields
import NativeBuild.Userland.Shell.Nested
import NativeBuild.Userland.Shell.Quoted
import NativeBuild.Userland.Shell.Sum

/-!
Filling in words: values, sums and what commands print take their places.  `go` runs a script with
less fuel.
-/

namespace NativeBuild.Shell

/-- What a name stands for in a word: a text, if it is set, or several. -/
inductive Found where
  | one (value : Option Raw)
  | many (items : List Raw) (joined : Bool)

namespace Found

/-- Whether anything is there; where emptiness counts, whether it is more than nothing. -/
def isSet (orEmpty : Bool) : Found → Bool
  | one none => false
  | one (some v) => !(orEmpty && v.isEmpty)
  | many items _ => !items.isEmpty && !(orEmpty && items.all List.isEmpty)

/-- Change every text. -/
def map (f : Raw → Raw) : Found → Found
  | one value => one (value.map f)
  | many items joined => many (items.map f) joined

end Found

/-- How deep and how long the words of a script may be. -/
def wordFuel : Nat := 100000

namespace State

/-- The home directory of a user; nobody in particular is the one who runs the shell. -/
def home? (s : State) (user : Raw) : Option Raw :=
  match String.ofList user with
  | "" => match s.get? "HOME".toList with
    | some home => some home
    | none => if s.isRich then some "/root".toList else none
  | "root" => some "/root".toList
  | "+" => if s.isRich then s.get? "PWD".toList else none
  | "-" => if s.isRich then s.get? "OLDPWD".toList else none
  | _ => none

/-- A part of a word in which a tilde at the start stands for a directory; it does if nothing but a
slash follows the name of the user. -/
def tilde (s : State) (isWhole : Bool) (text : Raw) : Word :=
  match text with
  | '~' :: rest =>
    let user := rest.takeWhile (· ≠ '/')
    let after := rest.drop user.length
    if after.isEmpty && !isWhole then [.plain text]
    else
      match s.home? user with
      | some home =>
        let home := if after.isEmpty || home ≠ ['/'] then home else []
        [.quoted home, .plain after]
      | none => [.plain text]
  | _ => [.plain text]

/-- A word with the directories in it that tildes stand for: at its start, and, where paths are
listed, behind every colon. -/
def tildes (s : State) (inList : Bool) : Bool → Word → Word
  | _, [] => []
  | isStart, .plain text :: rest =>
    let pieces := if inList then Text.pieces ':' text else [text]
    let last := pieces.length - 1
    let words := pieces.zipIdx.map fun (piece, k) =>
      if k ≠ 0 || isStart then s.tilde (k ≠ last || rest.isEmpty) piece else [.plain piece]
    [Piece.plain [':']].intercalate words ++ s.tildes inList false rest
  | _, piece :: rest => piece :: s.tildes inList false rest

/-- A word of a command with the directories in it that tildes stand for; in the rich language those
also count that stand behind a name and an equals sign. -/
def commandTildes (s : State) (w : Word) : Word :=
  match w with
  | .plain text :: rest =>
    let name := text.takeWhile isNameChar
    if s.isRich && isName name && (text.drop name.length).head? = some '=' then
      .plain (name ++ ['=']) :: s.tildes true true (.plain (text.drop (name.length + 1)) :: rest)
    else s.tildes false true w
  | _ => w

/-- The text between arguments that are put together. -/
def joint (s : State) : Raw :=
  s.separators.take 1

/-- The parts of a word that a value fills in. -/
def chunks (s : State) (isQuoted : Bool) (found : Found) : List Chunk :=
  let origin : Origin := if isQuoted then .quoted else .filled
  match found with
  | .one value => [.text (value.getD []) origin]
  | .many items joined =>
    if joined && isQuoted then [.text (s.joint.intercalate items) .quoted]
    else
      let between := if joined || !s.isRich then s.joint else [' ']
      (items.map fun a => Chunk.text a origin).intersperse (.boundary between)

/-- The variables whose names start in a given way. -/
def namesLike (s : State) (start : Raw) : List Raw :=
  ((s.vars.map Prod.fst).filter start.isPrefixOf).mergeSort inOrder

/-- The part of a text from an offset on; a negative offset or count is taken from the end. -/
def slice {α : Type} (items : List α) (offset : Int) (count : Option Int) : Option (List α) :=
  let size : Int := items.length
  let start := if offset < 0 then size + offset else offset
  if start < 0 then some []
  else
    let rest := items.drop start.toNat
    match count with
    | none => some rest
    | some n =>
      if 0 ≤ n then some (rest.take n.toNat)
      else
        let stop := size + n
        if stop < start then none else some (rest.take (stop - start).toNat)

/-- A value shown in one of the ways that the rich language knows. -/
def shown (how : Char) (text : Raw) : Raw :=
  match how with
  | 'Q' => quoted text
  | 'U' => text.map Char.toUpper
  | 'L' => text.map Char.toLower
  | 'u' => recaseBy .upper false ⟨[], false⟩ text
  | 'E' => ((untilDollarQuote (text.length + 2) (text ++ ['\''])).map Prod.fst).getD text
  | _ => text

end State

/-- A part of a word that came from a value, so that what is plain in it may split the word. -/
def Chunk.asFilled : Chunk → Chunk
  | .text chars .literal => .text chars .filled
  | chunk => chunk

/-- A replacement for a matched text: an unprotected ampersand stands for it. -/
def replacement (word : List Marked) (matched : Raw) : Raw :=
  word.flatMap fun (c, isQuoted) => if c = '&' && !isQuoted then matched else [c]

mutual

/-- Fill in the parts of a word, in at most so many steps. -/
def fill (go : Go) : Nat → Word → State → State × List Chunk
  | 0, _, s => (s, [])
  | _, [], s => (s, [])
  | fuel + 1, piece :: rest, s =>
    let origin (isQuoted : Bool) : Origin := if isQuoted then .quoted else .filled
    let (s, first) : State × List Chunk :=
      match piece with
      | .plain text => (s, [.text text .literal])
      | .quoted text => (s, [.text text .quoted])
      | .output text isQuoted =>
        let (s, out) := capture go text s
        (s, [.text out (origin isQuoted)])
      | .sum text isQuoted =>
        let (s, text) := fillText go fuel text s
        match s.reckon? (unmark text) with
        | some (n, s) => (s, [.text (Text.signedDecimal n) (origin isQuoted)])
        | none => (s.fault (rawString "arithmetic expression: bad sum"), [])
      | .channel isInput script =>
        let descriptor := ([63, 62, 61, 60].find? fun n => (s.handles.lookup n).isNone).getD 60
        let path := rawString "/dev/fd/" ++ Text.decimal descriptor
        let (world, id) := s.world.buffer
        let s := { s with world }
        if isInput then
          let (s, _) := isolated go s fun s =>
            runLines go script (s.onProcess fun p => p.setHandle 1 (some (.buffer id)))
          let (world, output) := s.world.takeBuffer id
          let (world, c) := world.source ⟨output, false⟩
          let s := { s with world }
          let s := s.onProcess fun p => p.setHandle descriptor (some c)
          ({ s with outlets := (descriptor, 0, []) :: s.outlets }, [.text path .quoted])
        else
          let s := s.onProcess fun p => p.setHandle descriptor (some (.buffer id))
          ({ s with outlets := (descriptor, id, script) :: s.outlets }, [.text path .quoted])
      | .broken => (s.fault (rawString "Bad substitution"), [])
      | .value name through index rule isQuoted =>
        fillValue go fuel name through index rule isQuoted s
    if s.broken then (s, first)
    else
      let (s, more) := fill go fuel rest s
      (s, first ++ more)

/-- Fill in a word whose text is not split. -/
def fillText (go : Go) : Nat → Word → State → State × List Marked
  | 0, _, s => (s, [])
  | fuel + 1, w, s =>
    let (s, chunks) := fill go fuel w s
    (s, unsplit chunks)

/-- What a name with an index stands for. -/
def findValue (go : Go) : Nat → Raw → Index → State → State × Found
  | 0, _, _, s => (s, .one none)
  | fuel + 1, name, index, s =>
    let value := (s.var? (s.resolve name)).bind (·.value)
    match index with
    | .none =>
      if name = ['@'] then (s, .many s.args false)
      else if name = ['*'] then (s, .many s.args true)
      else (s, .one (s.value? name))
    | .every joined => (s, .many ((value.map State.itemsOf).getD []) joined)
    | .item key =>
      let (s, key) := fillText go fuel key s
      if s.isTable name then (s, .one ((s.tableOf name).lookup (unmark key)))
      else
        match s.reckon? (unmark key) with
        | some (n, s) =>
          let items := s.listOf name
          (s, .one (items.lookup (listPlace items n)))
        | none => (s.fault (rawString "bad array subscript"), .one none)

/-- Fill in a value by its rule. -/
def fillValue (go : Go) :
    Nat → Raw → Bool → Index → ValueRule → Bool → State → State × List Chunk
  | 0, _, _, _, _, _, s => (s, [])
  | fuel + 1, name, through, index, rule, isQuoted, s =>
    let style := s.language.globStyle (s.isRich && s.wishes.contains "extglob")
      (s.wishes.contains "nocasematch")
    let (s, found) : State × Found :=
      if !through then findValue go fuel name index s
      else
        match rule with
        | .keys => (s, .one (some []))
        | .names => (s, .one (some []))
        | _ =>
          let (s, target) := findValue go fuel name index s
          match target with
          | .one (some target) =>
            let inner := target.takeWhile (· ≠ '[')
            match (target.drop inner.length) with
            | '[' :: '@' :: ']' :: _ => findValue go fuel inner (.every false) s
            | '[' :: '*' :: ']' :: _ => findValue go fuel inner (.every true) s
            | '[' :: key => findValue go fuel inner (.item [.quoted (key.takeWhile (· ≠ ']'))]) s
            | _ => findValue go fuel inner .none s
          | other => (s, other)
    let literal : Found → State × List Chunk := fun found => (s, s.chunks isQuoted found)
    let checked (use : Found → State × List Chunk) : State × List Chunk :=
      match found with
      | .one none =>
        if s.options.nounset then (s.doom (name ++ rawString ": parameter not set"), [])
        else use found
      | _ => use found
    let other (word : Word) : State × List Chunk :=
      let (s, chunks) := fill go fuel (if isQuoted then word else s.tildes false true word) s
      (s, if isQuoted then chunks else chunks.map Chunk.asFilled)
    match rule with
    | .plain => checked literal
    | .length =>
      match found with
      | .many items _ =>
        let size := if s.isRich then items.length
          else (s.joint.intercalate items).length
        literal (.one (some (Text.decimal size)))
      | .one value => checked fun _ => literal (.one (some (Text.decimal (value.getD []).length)))
    | .default orEmpty word => if found.isSet orEmpty then literal found else other word
    | .alternative orEmpty word => if found.isSet orEmpty then other word else (s, [])
    | .assign orEmpty word =>
      if found.isSet orEmpty then literal found
      else
        let (s, chunks) := other word
        let text := unmark (unsplit chunks)
        let s := match index with
          | .item key =>
            let (s, key) := fillText go fuel key s
            if s.isTable name then s.setKey name (unmark key) text
            else s.setItem name (((s.reckon? (unmark key)).map Prod.fst).getD 0) text
          | _ =>
            if isName name then s.set name text
            else s.fault (rawString "Bad substitution")
        (s, s.chunks isQuoted (.one (some text)))
    | .demand orEmpty word =>
      if found.isSet orEmpty then literal found
      else
        let (s, chunks) := other word
        let text := unmark (unsplit chunks)
        let text := if text.isEmpty then
            rawString (if orEmpty then "parameter not set or null" else "parameter not set")
          else text
        (s.doom (name ++ ": ".toList ++ text), [])
    | .dropFront greedy pattern =>
      let (t, pattern) := fillText go fuel pattern s
      let pattern := Pattern.of style pattern
      checked fun found => (t, t.chunks isQuoted (found.map (dropFront pattern greedy)))
    | .dropBack greedy pattern =>
      let (t, pattern) := fillText go fuel pattern s
      let pattern := Pattern.of style pattern
      checked fun found => (t, t.chunks isQuoted (found.map (dropBack pattern greedy)))
    | .replace rule pattern word =>
      let (t, pattern) := fillText go fuel pattern s
      let (t, word) := fillText go fuel word t
      let pattern := Pattern.of style pattern
      checked fun found =>
        (t, t.chunks isQuoted (found.map (replaceBy rule pattern (replacement word))))
    | .recase how throughout pattern =>
      let (t, pattern) := fillText go fuel pattern s
      let pattern := Pattern.of style pattern
      checked fun found =>
        (t, t.chunks isQuoted (found.map (recaseBy how throughout pattern)))
    | .shown how => checked fun found => literal (found.map (State.shown how))
    | .keys =>
      let value := (s.var? (s.resolve name)).bind (·.value)
      let joined := match index with
        | .every joined => joined
        | _ => false
      literal (.many ((value.map State.keysOf).getD []) joined)
    | .names => literal (.many (s.namesLike name) false)
    | .part offset count =>
      let (t, offset) := fillText go fuel offset s
      match t.reckon? (unmark offset) with
      | none => (t.fault (rawString "bad sum"), [])
      | some (offset, t) =>
        let (t, count) : State × Option (Option Int) :=
          match count with
          | none => (t, some none)
          | some count =>
            let (t, count) := fillText go fuel count t
            match t.reckon? (unmark count) with
            | some (n, t) => (t, some (some n))
            | none => (t, none)
        match count with
        | none => (t.fault (rawString "bad sum"), [])
        | some count =>
          let isArguments := name = ['@'] || name = ['*']
          let part : Option Found := match found with
            | .one value => (State.slice (value.getD []) offset count).map fun v => .one (some v)
            | .many items joined =>
              let items := if isArguments then t.name :: items else items
              if count.any (· < 0) then none
              else (State.slice items offset count).map fun v => .many v joined
          match part with
          | some found => checked fun _ => (t, t.chunks isQuoted found)
          | none => (t.fault (rawString "substring expression < 0"), [])

end

/-- Whether a piece stands for all arguments or items, each a field of its own. -/
def isSpread : Piece → Bool
  | .value ['@'] _ _ _ true => true
  | .value _ _ (.every false) _ true => true
  | _ => false

/-- Fill in the parts of a word.  Where the arguments stand in quotes and there are none, the quotes
do not make a field. -/
def fillWord (go : Go) (w : Word) (s : State) : State × List Chunk :=
  let w := if w.any isSpread then w.filter fun
      | .quoted [] => false
      | _ => true
    else w
  fill go wordFuel w s

/-- The text of a word that is neither split nor matched against files. -/
def oneText (go : Go) (w : Word) (s : State) : State × Raw :=
  let (s, chunks) := fillWord go (s.tildes false true w) s
  (s, unmark (unsplit chunks))

/-- The text of the value of an assignment, where paths may be listed. -/
def assignedText (go : Go) (w : Word) (s : State) : State × Raw :=
  let (s, chunks) := fillWord go (s.tildes true true w) s
  (s, unmark (unsplit chunks))

/-- The pattern that a word is. -/
def patternOf (go : Go) (style : GlobStyle) (w : Word) (s : State) : State × Pattern :=
  let (s, chunks) := fillWord go (s.tildes false true w) s
  (s, Pattern.of style (unsplit chunks))

/-- The words that a word of a command stands for. -/
def fieldsOf (go : Go) (w : Word) (s : State) : State × List Raw :=
  let (s, chunks) := fillWord go (s.commandTildes w) s
  (s, (gather s.separators chunks).flatMap s.fieldWords)

/-- The words that a command gets, one word after the other. -/
def fieldsOfAll (go : Go) : List Word → State → State × List Raw
  | [], s => (s, [])
  | w :: rest, s =>
    let (s, words) := fieldsOf go w s
    if s.broken then (s, words)
    else
      let (s, more) := fieldsOfAll go rest s
      (s, words ++ more)

/-- The words that a command gets. -/
def allWords (go : Go) (ws : List Word) (s : State) : State × List Raw :=
  fieldsOfAll go (if s.isRich then ws.flatMap expandBraces else ws) s

end NativeBuild.Shell
