import NativeBuild.Userland.Shell.Builtin.Basic

/-!
The commands that say what names stand for, and those that give names to commands.
-/

namespace NativeBuild.Shell

/-- What the name of a command stands for. -/
inductive Meaning where
  | alias (text : Raw)
  | keyword
  | function
  | special
  | builtin
  | program (path : Raw)

namespace State

/-- The paths that a name leads to in the directories that are searched. -/
def programPaths (s : State) (name : Raw) : List Raw :=
  let isProgram (path : Raw) : Bool := match s.entryAt true path with
    | some (_, .program _) => true
    | some (_, .file _ executable) => executable
    | _ => false
  if name.isEmpty then []
  else if name.contains '/' then [name].filter isProgram
  else
    ((searchedDirectories ((s.get? "PATH".toList).getD [])).map fun d => below d name).filter
      isProgram

/-- All that a name stands for, what counts first. -/
def meanings (s : State) (name : Raw) : List Meaning :=
  let text := String.ofList name
  let named (found : Bool) (m : Meaning) : List Meaning := if found then [m] else []
  let aliased := (s.grammar.aliases.lookup name).toList.map Meaning.alias
  let keyword := named ((reserved s.language).contains text) .keyword
  let special := named (!s.isRich && specialNames.contains text) .special
  let function := named (s.functions.lookup name).isSome .function
  let builtin := named (s.isBuiltin name && special.isEmpty) .builtin
  (if s.isRich then aliased ++ keyword else keyword ++ aliased) ++ special ++ function ++ builtin ++
    (s.programPaths name).map .program

/-- What a shell says at length of what a name stands for. -/
def described (s : State) (name : Raw) (m : Meaning) : Raw :=
  let isA (text : String) : Raw := name ++ rawString (" is " ++ text)
  match m with
  | .alias text =>
    if s.isRich then isA "aliased to " ++ backquote :: text ++ ['\'']
    else isA "an alias for " ++ text
  | .keyword => isA "a shell keyword"
  | .function => isA (if s.isRich then "a function" else "a shell function")
  | .special => isA "a special shell builtin"
  | .builtin => isA "a shell builtin"
  | .program path =>
    if s.tracked.all (·.1 ≠ name) then isA "" ++ path
    else if s.isRich then isA "hashed (" ++ path ++ [')']
    else isA "a tracked alias for " ++ path

/-- The text of an alias, in quotes. -/
def shownAlias (s : State) (text : Raw) : Raw :=
  if s.isRich then singleQuoted text else plainQuotedWithin (text.length + 1) text

/-- What a shell says in short of what a name stands for. -/
def brief (s : State) (name : Raw) (m : Meaning) : Raw :=
  match m with
  | .alias text => rawString "alias " ++ name ++ '=' :: s.shownAlias text
  | .program path => path
  | _ => name

end State

/-- The kind of what a name stands for. -/
def Meaning.kind : Meaning → String
  | .alias _ => "alias"
  | .keyword => "keyword"
  | .function => "function"
  | .special => "builtin"
  | .builtin => "builtin"
  | .program _ => "file"

/-- Note that a program has been looked up to say what its name stands for. -/
def State.trackMeaning (s : State) (name : Raw) (m : Meaning) : State :=
  match s.isRich, m with
  | false, .program _ => s.track name 0
  | _, _ => s

/-- Say what names stand for. -/
def typeCommand (args : List Raw) (s : State) : State × Flow :=
  let (letters, names) := if s.isRich then takeLetters args else ([], args)
  let has (c : Char) : Bool := letters.contains c
  let step (acc : State × Nat) (name : Raw) : State × Nat :=
    let (s, status) := acc
    let found : List Meaning := if has 'P' then (s.programPaths name).map .program
      else (s.meanings name).filter fun m =>
        !(has 'f' && m matches .function)
    let found := if has 'a' then found else found.take 1
    match found with
    | [] =>
      let s := if s.isRich then
          if letters.isEmpty then
            s.complain (rawString "type: " ++ name ++ rawString ": not found")
          else s
        else s.say 1 (name ++ rawString ": not found\n")
      (s, if s.isRich then 1 else 127)
    | _ =>
      let text (m : Meaning) : Raw :=
        if has 't' then m.kind.toList ++ ['\n']
        else if has 'p' || has 'P' then
          match m with
          | .program path => path ++ ['\n']
          | _ => []
        else s.described name m ++ ['\n']
      let told := s.say 1 (found.flatMap text)
      (found.foldl (fun s m => s.trackMeaning name m) told, status)
  let (s, status) := names.foldl step (s, 0)
  s.done status

/-- Say what names stand for, in short or at length. -/
def commandMeaning (atLength : Bool) (names : List Raw) (s : State) : State × Flow :=
  let names := if s.isRich then names else names.take 1
  let step (acc : State × Nat) (name : Raw) : State × Nat :=
    let (s, found) := acc
    match (s.meanings name).head? with
    | some m =>
      let text := if atLength then s.described name m else s.brief name m
      ((s.say 1 (text ++ ['\n'])).trackMeaning name m, found + 1)
    | none =>
      (if atLength && !s.isRich then s.say 1 (name ++ rawString ": not found\n") else s, found)
  let (s, found) := names.foldl step (s, 0)
  s.done (if names.isEmpty || found ≠ 0 then 0 else if s.isRich then 1 else 127)

/-- The place in the order of the programs that have been looked up. -/
def trackPlace (language : Language) (name : Raw) : Nat :=
  match language with
  | .plain => (((name.headD ' ').toNat * 16 + name.foldl (fun n c => n + c.toNat) 0) % 32768) % 31
  | .rich =>
    let step (n : UInt32) (c : Char) : UInt32 := (n * 16777619) ^^^ UInt32.ofNat c.toNat
    (name.foldl step 2166136261).toNat % 256

/-- The programs that have been looked up, with their paths. -/
def State.trackedText (s : State) : Raw :=
  let newest := if s.isRich then s.tracked.reverse else s.tracked
  let sorted := newest.mergeSort fun a b => trackPlace s.language a.1 ≤ trackPlace s.language b.1
  let line (item : Raw × Nat) : Raw :=
    let path := (s.programPaths item.1).headD item.1
    let times := Text.decimal item.2
    let lead := if s.isRich then List.replicate (4 - times.length) ' ' ++ times ++ ['\t'] else []
    lead ++ path ++ ['\n']
  if !s.isRich then sorted.flatMap line
  else if sorted.isEmpty then rawString "hash: hash table empty\n"
  else rawString "hits\tcommand\n" ++ sorted.flatMap line

/-- Look up programs, forget them, or show those that have been looked up. -/
def hashCommand (args : List Raw) (s : State) : State × Flow :=
  let (letters, names) := takeLetters args
  let s : State := if letters.contains 'r' then { s with tracked := [] } else s
  if letters.contains 'd' then
    { s with tracked := s.tracked.filter fun t => !names.contains t.1 }.done 0
  else if names.isEmpty then
    if letters.contains 'r' then s.done 0 else s.printed s.trackedText
  else if letters.contains 't' then
    s.printed (unlines (names.flatMap fun n => (s.programPaths n).take 1))
  else
    let isKnown (n : Raw) : Bool := s.isBuiltin n || (s.functions.lookup n).isSome
    let missing := names.filter fun n => !isKnown n && (s.programPaths n).isEmpty
    let found := names.filter fun n => !isKnown n && !(s.programPaths n).isEmpty
    let s := found.foldl (fun s n => s.track n 0) s
    if missing.isEmpty then s.done 0
    else
      (s.complain (missing.headD [] ++ rawString ": not found")).done 1

/-- Give names to texts that take their place where commands stand, or show them. -/
def aliasCommand (args : List Raw) (s : State) : State × Flow :=
  let shown (s : State) (item : Raw × Raw) : Raw :=
    (if s.isRich then rawString "alias " else []) ++ item.1 ++ '=' ::
      s.shownAlias item.2 ++ ['\n']
  let names := args.filter (· ≠ ['-', 'p'])
  if names.isEmpty then
    s.printed ((s.aliases.mergeSort fun a b => inOrder a.1 b.1).flatMap (shown s))
  else
    let step (acc : State × Nat) (arg : Raw) : State × Nat :=
      let (s, status) := acc
      match Text.cut '=' arg with
      | (name, some text) =>
        ({ s with aliases := (name, text) :: s.aliases.filter (·.1 ≠ name) }, status)
      | (name, none) =>
        match s.aliases.lookup name with
        | some text => (s.say 1 (shown s (name, text)), status)
        | none => (s.complain (rawString "alias: " ++ name ++ rawString " not found"), 1)
    let (s, status) := names.foldl step (s, 0)
    s.done status

/-- Take such names away. -/
def unaliasCommand (args : List Raw) (s : State) : State × Flow :=
  if args.head? = some ['-', 'a'] then { s with aliases := [] }.done 0
  else
    let missing := args.any fun name => (s.aliases.lookup name).isNone
    let aliases := s.aliases.filter fun a => !args.contains a.1
    { s with aliases }.done (if missing then 1 else 0)

end NativeBuild.Shell
