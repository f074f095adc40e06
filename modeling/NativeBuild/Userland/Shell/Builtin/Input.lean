import NativeBuild.Userland.Shell.Builtin.Basic

/-!
The commands that read input into variables, and options from arguments.
-/

namespace NativeBuild.Shell

/-- What has been taken from the front of a text: characters, of which some stood behind a
backslash; whether the end that was looked for has been found; and what is left. -/
structure Taken where
  text : List Marked
  isWhole : Bool
  rest : Raw

/-- How a line is taken: whether backslashes stand for themselves, what ends it, and after how many
characters it ends anyhow. -/
structure TakeRule where
  raw : Bool
  stop : Option Char
  most : Option Nat

/-- Take a line from the front of a text. -/
def takeLine (rule : TakeRule) : Nat → Raw → Taken
  | taken, text =>
    if rule.most = some taken then ⟨[], true, text⟩
    else
      match text with
      | [] => ⟨[], false, []⟩
      | '\\' :: rest =>
        if rule.raw then push taken ('\\', false) rest
        else
          match rest with
          | '\n' :: rest => takeLine rule taken rest
          | c :: rest => push taken (c, true) rest
          | [] => ⟨[], false, []⟩
      | c :: rest => if rule.stop = some c then ⟨[], true, rest⟩ else push taken (c, false) rest
where
  /-- Take a character and what follows it. -/
  push (taken : Nat) (c : Marked) (rest : Raw) : Taken :=
    let t := takeLine rule (taken + 1) rest
    if c.1.toNat = 0 then t else { t with text := c :: t.text }

/-- Whether a character separates fields, and does so as a blank. -/
def isBlankSeparator (separators : Raw) (c : Marked) : Bool :=
  !c.2 && separators.contains c.1 && (c.1 = ' ' || c.1 = '\t' || c.1 = '\n')

/-- Take a field from the front of a text, and the separator behind it. -/
def takeField (separators : Raw) (text : List Marked) : List Marked × List Marked :=
  let isSeparator (c : Marked) : Bool := !c.2 && separators.contains c.1
  let blank := isBlankSeparator separators
  let word := text.takeWhile fun c => !isSeparator c
  let rest := (text.drop word.length).dropWhile blank
  match rest with
  | c :: more => if isSeparator c then (word, more.dropWhile blank) else (word, rest)
  | [] => (word, [])

/-- The fields of a text, of which the last one gets all that is left if there are names for no
more. -/
def fieldsFor (separators : Raw) : Nat → List Marked → List Raw
  | 0, _ => []
  | 1, text =>
    let (word, rest) := takeField separators text
    if rest.isEmpty then [unmark word]
    else [unmark (text.reverse.dropWhile (isBlankSeparator separators)).reverse]
  | names + 2, text =>
    let (word, rest) := takeField separators text
    unmark word :: fieldsFor separators (names + 1) rest

/-- All fields of a text, in at most `fuel` steps. -/
def allFields (separators : Raw) : Nat → List Marked → List Raw
  | 0, _ => []
  | _, [] => []
  | fuel + 1, text =>
    let (word, rest) := takeField separators text
    unmark word :: allFields separators fuel rest

/-- Read a line of the input into variables. -/
def inputCommand (args : List Raw) (s : State) : State × Flow :=
  let known : Tool.OptionSet :=
    { letters := if s.isRich then "ersu:a:d:i:n:N:p:t:" else "p:r", permutes := false }
  match known.read? args with
  | none => s.refuse (rawString "read: Illegal option") 2
  | some g =>
    let names := g.operands
    let exact := (g.value? 'N').bind Text.decimal?
    let rule : TakeRule :=
      { raw := g.has 'r'
        stop :=
          if exact.isSome then none
          else
            match g.value? 'd' with
            | some [] => some (Char.ofNat 0)
            | some (c :: _) => some c
            | none => some '\n'
        most := exact.orElse fun _ => (g.value? 'n').bind Text.decimal? }
    let descriptor := ((g.value? 'u').bind Text.decimal?).getD 0
    if !s.isRich && names.isEmpty then s.refuse (rawString "read: arg count") 2
    else if names.any fun n => !isName (n.takeWhile (· ≠ '[')) then
      s.refuse (rawString "read: bad variable name") 1
    else if (s.handles.lookup descriptor).isNone then s.done 1
    else
      let waiting := (s.toProcess.pending descriptor).text
      if g.value? 't' = some ['0'] then s.done (if waiting.isEmpty then 1 else 0)
      else
        let taken := takeLine rule 0 waiting
        let s := s.onProcess fun p => p.leave descriptor taken.rest
        let separators := s.separators
        let trimmed := taken.text.dropWhile (isBlankSeparator separators)
        let s :=
          match g.value? 'a', names with
          | some name, _ =>
            let fields := allFields separators (trimmed.length + 1) trimmed
            s.assign name (.list (fields.zipIdx.map fun (f, k) => (k, f)))
          | none, [] => s.setNamed "REPLY" (unmark taken.text)
          | none, _ =>
            let fields := if exact.isSome then
                unmark taken.text :: List.replicate (names.length - 1) []
              else fieldsFor separators names.length trimmed
            (names.zip fields).foldl
              (fun (s : State) (item : Raw × Raw) =>
                ({ name := item.1, value := .text item.2 } : Setter).make s) s
        s.done (if taken.isWhole then 0 else 1)

/-- Read lines of the input into a list. -/
def mapfileCommand (args : List Raw) (s : State) : State × Flow :=
  let known : Tool.OptionSet := { letters := "td:n:s:O:u:C:c:", permutes := false }
  match known.read? args with
  | none => s.refuse (rawString "mapfile: invalid option") 2
  | some g =>
    let count (c : Char) : Option Nat := (g.value? c).bind Text.decimal?
    let descriptor := (count 'u').getD 0
    let stop : Char := match g.value? 'd' with
      | some [] => Char.ofNat 0
      | some (c :: _) => c
      | none => '\n'
    let text := (s.toProcess.pending descriptor).text
    let pieces := Text.pieces stop text
    let ends := pieces.dropLast.map fun p => if g.has 't' then p else p ++ [stop]
    let items := ends ++ (pieces.drop (pieces.length - 1)).filter fun p => !p.isEmpty
    let skipped := (count 's').getD 0
    let wanted := items.drop skipped
    let wanted := match count 'n' with
      | some n => if n = 0 then wanted else wanted.take n
      | none => wanted
    let rest : Raw := match count 'n' with
      | some (n + 1) => [stop].intercalate (pieces.drop (skipped + n + 1))
      | _ => []
    let s := s.onProcess fun p => p.leave descriptor rest
    let origin := (count 'O').getD 0
    let old := if g.has 'O' then s.listOf (g.operands.headD "MAPFILE".toList) else []
    let placed := wanted.zipIdx.foldl
      (fun items (text, k) => State.insertItem (origin + k) text items) old
    (s.assign (g.operands.headD "MAPFILE".toList) (.list placed)).done 0

/-- Read the next option of arguments. -/
def getoptsCommand (args : List Raw) (s : State) : State × Flow :=
  match args with
  | letters :: name :: given =>
    let args := if given.isEmpty then s.args else given
    let isSilent := letters.head? = some ':'
    let place := max 1 (((s.get? "OPTIND".toList).map number).getD 1)
    let finish (s : State) (next : Nat) (within : Nat) (found : Raw) (value : Option Raw)
        (status : Nat) : State × Flow :=
      let s := s.setNamed "OPTIND" (Text.decimal next)
      let s := match value with
        | some value => s.setNamed "OPTARG" value
        | none => s.dropVariable "OPTARG".toList
      ({ s.set name found with letters := within }).done status
    let step (word : Raw) (within : Nat) (next : Nat) : State × Flow :=
      match word[within]? with
      | none => finish s next 0 ['?'] none 1
      | some c =>
        let more := word.drop (within + 1)
        let isDone := more.isEmpty
        let after := if isDone then 0 else within + 1
        let early := if s.isRich && !isDone then next - 1 else next
        let spec := letters.dropWhile (· ≠ c)
        if c = ':' ∨ spec.isEmpty then
          if isSilent then finish s early after ['?'] (some [c]) 0
          else
            let silenced := s.get? "OPTERR".toList = some ['0']
            let s := if silenced then s else s.complain (rawString "Illegal option -" ++ [c])
            finish s early after ['?'] none 0
        else if spec[1]? ≠ some ':' then
          finish s early after [c] (if s.isRich then none else some []) 0
        else if !isDone then finish s next 0 [c] (some more) 0
        else
          match args[next - 1]? with
          | some value => finish s (next + 1) 0 [c] (some value) 0
          | none =>
            if isSilent then finish s next 0 [':'] (some [c]) 0
            else
              let message := rawString "No arg for -" ++ c :: rawString " option"
              finish (s.complain message) next 0 ['?']
                none 0
    if 0 < s.letters then
      let next := if s.isRich then place + 1 else place
      step ((args[next - 2]?).getD []) s.letters next
    else
      match args[place - 1]? with
      | some ['-', '-'] => finish s (place + 1) 0 ['?'] none 1
      | some ('-' :: c :: more) => step ('-' :: c :: more) 1 (place + 1)
      | _ => finish s place 0 ['?'] none 1
  | _ => s.refuse (rawString "getopts: usage") 2

end NativeBuild.Shell
