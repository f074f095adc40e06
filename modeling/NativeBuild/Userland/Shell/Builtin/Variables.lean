import NativeBuild.Userland.Shell.Builtin.Meaning

/-!
The commands that declare variables, show them and take them away, and those that set options and
arguments.
-/

namespace NativeBuild.Shell

/-- What a command that declares variables is asked: an option or a name that may have a value, or
an assignment. -/
inductive Request where
  | word (w : Raw)
  | assign (a : Setter)

/-- What variables are declared as. -/
structure Attributes where
  list : Bool := false
  table : Bool := false
  exported : Option Bool := none
  constant : Bool := false
  number : Option Bool := none
  upper : Option Bool := none
  lower : Option Bool := none
  refers : Bool := false
  isLocal : Bool := false
  isGlobal : Bool := false
  prints : Bool := false
  functions : Bool := false

/-- Add what a letter says; `none` if it says nothing. -/
def Attributes.with? (a : Attributes) (on : Bool) (letter : Char) : Option Attributes :=
  match letter with
  | 'a' => some { a with list := on }
  | 'A' => some { a with table := on }
  | 'x' => some { a with exported := some on }
  | 'r' => some { a with constant := on }
  | 'i' => some { a with number := some on }
  | 'u' => some { a with upper := some on }
  | 'l' => some { a with lower := some on }
  | 'n' => some { a with refers := on }
  | 'g' => some { a with isGlobal := on }
  | 'p' => some { a with prints := on }
  | 'f' => some { a with functions := on }
  | 'F' => some { a with functions := on }
  | 't' => some a
  | 'I' => some a
  | _ => none

namespace State

/-! ### Showing variables -/

/-- The items of a list or table between brackets. -/
def shownItems (v : Value) : Raw :=
  let shown (key text : Raw) : Raw := '[' :: key ++ [']', '='] ++ doubleQuoted text
  match v with
  | .text t => doubleQuoted t
  | .list items => '(' :: spaced (items.map fun item => shown (Text.decimal item.1) item.2) ++ [')']
  | .table items =>
    let key (k : Raw) : Raw := if !k.isEmpty && k.all isPlainChar then k else doubleQuoted k
    '(' :: (items.flatMap fun item => shown (key item.1) item.2 ++ [' ']) ++ [')']

/-- A variable as the command that declares it. -/
def declaration (name : Raw) (v : Variable) : Raw :=
  let letters : List (Bool × Char) :=
    [(v.value matches some (.list _), 'a'), (v.value matches some (.table _), 'A'), (v.number, 'i'),
      (v.refers, 'n'), (v.constant, 'r'), (v.exported, 'x'), (v.lower, 'l'), (v.upper, 'u')]
  let given := letters.filterMap fun l => if l.1 then some l.2 else none
  rawString "declare -" ++ (if given.isEmpty then ['-'] else given) ++ ' ' :: name ++
    match v.value with
    | some value => '=' :: shownItems value
    | none => []

/-- The variables in the order of their names. -/
def sortedVariables (s : State) : List (Raw × Variable) :=
  s.vars.mergeSort fun a b => inOrder a.1 b.1

/-- All variables with their values. -/
def listing (s : State) : Raw :=
  s.sortedVariables.flatMap fun (name, v) =>
    match v.value with
    | some (.text t) => name ++ '=' :: s.shownValue t ++ ['\n']
    | some value => name ++ '=' :: shownItems value ++ ['\n']
    | none => []

/-- The variables that are exported, or constant, as commands that make them so. -/
def declarations (s : State) (command : String) (isOne : Variable → Bool) : Raw :=
  (s.sortedVariables.filter fun item => isOne item.2).flatMap fun (name, v) =>
    if s.isRich then declaration name v ++ ['\n']
    else
      rawString command ++ ' ' :: name ++
        (match v.value.bind textOf with
          | some text => '=' :: s.shownValue text
          | none => []) ++ ['\n']

/-! ### Declaring variables -/

/-- Make a variable one of the function that the shell is in. -/
def makeLocal (s : State) (name : Raw) : State :=
  if s.hidden.any (·.1 = name) then s
  else
    let old := s.var? name
    let s := { s with hidden := (name, old) :: s.hidden }
    if !s.isRich then s
    else
      s.putVariable name { exported := (old.map (·.exported)).getD false }

/-- A variable with other attributes. -/
def withAttributes (v : Variable) (a : Attributes) : Variable :=
  let value : Option Value :=
    match v.value, a.list, a.table with
    | none, true, _ => some (.list [])
    | none, _, true => some (.table [])
    | some (.text t), true, _ => some (.list [(0, t)])
    | some (.text t), _, true => some (.table [(['0'], t)])
    | old, _, _ => old
  { v with
    value
    exported := a.exported.getD v.exported
    number := a.number.getD v.number
    upper := a.upper.getD (v.upper && a.lower ≠ some true)
    lower := a.lower.getD (v.lower && a.upper ≠ some true)
    refers := v.refers || a.refers }

/-- Declare a variable, and give it a value if there is one. -/
def declareOne (a : Attributes) (name : Raw) (setter : Option Setter) (s : State) : State :=
  let s := if a.isLocal && !a.isGlobal then s.makeLocal name else s
  let target := if a.refers then name else s.resolve name
  let old := (s.var? target).getD {}
  let s :=
    if (s.var? target).isSome || setter.isNone || a.list || a.table || a.number.isSome ||
        a.exported.isSome || a.upper.isSome || a.lower.isSome || a.refers then
      s.putVariable target (withAttributes old a)
    else s
  let s :=
    match setter with
    | none => s
    | some setter =>
      match a.refers, setter.value with
      | true, .text t =>
        s.putVariable target { (s.var? target).getD {} with value := some (.text t) }
      | _, _ => setter.make s
  if a.constant && !s.broken then
    s.putVariable target { (s.var? target).getD {} with constant := true }
  else s

end State

/-- The assignment that a word is, or the name that it is. -/
def Request.setter (adds : Bool) : Request → Raw × Option Setter
  | .assign a => (a.name, some a)
  | .word w =>
    match Text.cut '=' w with
    | (name, none) => (name, none)
    | (name, some text) =>
      let isMore := adds && name.getLast? = some '+'
      let name := if isMore then name.dropLast else name
      let base := name.takeWhile (· ≠ '[')
      let key := name.drop base.length
      let key := if key.getLast? = some ']' then some ((key.drop 1).dropLast) else none
      (if key.isSome then base else name,
        let name := if key.isSome then base else name
        some { name, key, adds := isMore, value := .text text })

/-- Read the options among what a command that declares variables is asked. -/
def readAttributes (known : String) : Attributes → List Request →
    Option (Attributes × List Request)
  | a, .word ['-', '-'] :: rest => some (a, rest)
  | a, .word (sign :: letters) :: rest =>
    if (sign ≠ '-' && sign ≠ '+') || letters.isEmpty then some (a, .word (sign :: letters) :: rest)
    else
      match letters.foldlM
          (fun a c => if known.toList.contains c then a.with? (sign = '-') c else none) a with
      | some a => readAttributes known a rest
      | none => none
  | a, rest => some (a, rest)

/-- The command that declares a variable as something: its own name, and what it always says. -/
def declareCommand (command : String) (requests : List Request) (s : State) : State × Flow :=
  let inFunction := !s.functionNames.isEmpty
  let (known, start) : String × Attributes :=
    match command with
    | "export" => (if s.isRich then "fnp" else "p", { exported := some true })
    | "readonly" => (if s.isRich then "aAfp" else "p", { constant := true })
    | "local" => (if s.isRich then "aAiIlnrtuxp" else "", { isLocal := true })
    | _ => ("aAfFgiIlnrtuxp", { isLocal := inFunction })
  let read := if !s.isRich && command = "local" then some (start, requests)
    else readAttributes known start requests
  match read with
  | none => s.refuse (rawString (command ++ ": invalid option")) 2
  | some (a, requests) =>
    let a :=
      if command = "export" && a.refers then { a with refers := false, exported := some false }
      else a
    if command = "local" && !inFunction then
      s.refuse (rawString "local: can only be used in a function") 1
    else if a.functions then
      let missing := requests.any fun r => (s.functions.lookup (r.setter true).1).isNone
      s.done (if missing then 1 else 0)
    else if requests.isEmpty then
      match command with
      | "export" => s.printed (s.declarations command (·.exported))
      | "readonly" => s.printed (s.declarations command (·.constant))
      | "local" => s.done 0
      | _ => s.printed s.listing
    else if a.prints && command ≠ "export" && command ≠ "readonly" then
      let step (acc : State × Nat) (r : Request) : State × Nat :=
        let name := (r.setter true).1
        match acc.1.var? name with
        | some v => (acc.1.say 1 (State.declaration name v ++ ['\n']), acc.2)
        | none => (acc.1.complain (rawString "declare: " ++ name ++ rawString ": not found"), 1)
      let (s, status) := requests.foldl step (s, 0)
      s.done status
    else
      let step (acc : State × Nat) (r : Request) : State × Nat :=
        let (s, status) := acc
        if s.broken && !s.isRich then acc
        else
          let (name, setter) := r.setter s.isRich
          if !isName name then
            let message := rawString (command ++ ": ") ++ name ++ rawString ": bad variable name"
            ((s.refuse message 1).1, 1)
          else
            let t := s.declareOne a name setter
            if t.broken && s.isRich then ({ t with broken := false }, 1) else (t, status)
      let (s, status) := requests.foldl step (s, 0)
      s.done status

/-- Take variables or functions away. -/
def unsetCommand (args : List Raw) (s : State) : State × Flow :=
  let (letters, names) := takeLetters args
  let step (acc : State × Nat) (name : Raw) : State × Nat :=
    let (s, status) := acc
    let base := name.takeWhile (· ≠ '[')
    let key := ((name.drop base.length).drop 1).dropLast
    let target := if letters.contains 'n' then base else s.resolve base
    let withoutFunction : State := { s with functions := s.functions.filter (·.1 ≠ name) }
    if letters.contains 'f' || (s.isRich && letters.isEmpty && !isName base) then
      (withoutFunction, status)
    else if !isName base then
      ((s.refuse (rawString "unset: " ++ name ++ rawString ": bad variable name") 1).1, 1)
    else
      match s.var? target with
      | some v =>
        if v.constant then
          ((s.refuse (rawString "unset: " ++ name ++ rawString ": is read only") 1).1, 1)
        else if base.length < name.length then
          match v.value with
          | some (.list items) =>
            let (s, n) := s.sumOf key
            let place := listPlace items n
            (s.putVariable target
              { v with value := some (.list (items.filter (·.1 ≠ place))) }, status)
          | some (.table items) =>
            (s.putVariable target
              { v with value := some (.table (items.filter (·.1 ≠ key))) }, status)
          | _ => (s, status)
        else (s.dropVariable target, status)
      | none =>
        if s.isRich && !letters.contains 'v' then (withoutFunction, status) else (s, status)
  let (s, status) := names.foldl step (s, 0)
  s.done status

/-! ### Options and arguments -/

/-- Set options and arguments, or show what is set. -/
def setCommand (args : List Raw) (s : State) : State × Flow :=
  match args with
  | [] => s.printed s.listing
  | [['-', 'o']] => s.printed (s.options.shown s.language false)
  | [['+', 'o']] => s.printed (s.options.shown s.language true)
  | _ =>
    match Setting.read? s.language false s.options args with
    | none => s.refuse (rawString "set: Illegal option") 2
    | some r =>
      let s := { s with options := r.options }
      let s := if r.endsOptions || !r.args.isEmpty then { s with args := r.args } else s
      s.done 0

/-- Drop arguments from the front. -/
def shiftCommand (args : List Raw) (s : State) : State × Flow :=
  match args.head? with
  | none => if s.args.isEmpty then tooMany s else { s with args := s.args.drop 1 }.done 0
  | some text =>
    match Text.decimal? text with
    | none => s.refuse (rawString "shift: Illegal number: " ++ text) 1
    | some n => if s.args.length < n then tooMany s else { s with args := s.args.drop n }.done 0
where
  /-- There are fewer arguments than are to be dropped. -/
  tooMany (s : State) : State × Flow :=
    if s.isRich then s.done 1 else s.refuse (rawString "shift: can't shift that many") 1

/-- The wishes that there are, in the order in which they are shown. -/
def knownWishes : Wishes :=
  ["autocd", "assoc_expand_once", "cdable_vars", "cdspell", "checkhash", "checkjobs",
    "checkwinsize", "cmdhist", "compat31", "compat32", "compat40", "compat41", "compat42",
    "compat43", "compat44", "complete_fullquote", "direxpand", "dirspell", "dotglob", "execfail",
    "expand_aliases", "extdebug", "extglob", "extquote", "failglob", "force_fignore",
    "globasciiranges", "globskipdots", "globstar", "gnu_errfmt", "histappend", "histreedit",
    "histverify", "hostcomplete", "huponexit", "inherit_errexit", "interactive_comments",
    "lastpipe", "lithist", "localvar_inherit", "localvar_unset", "login_shell", "mailwarn",
    "no_empty_cmd_completion", "nocaseglob", "nocasematch", "noexpand_translation", "nullglob",
    "patsub_replacement", "progcomp", "progcomp_alias", "promptvars", "restricted_shell",
    "shift_verbose", "sourcepath", "varredir_close", "xpg_echo"]

/-- Ask for wishes or show them. -/
def shoptCommand (args : List Raw) (s : State) : State × Flow :=
  let (letters, names) := takeLetters args
  let asked := names.map String.ofList
  let names := asked.filter knownWishes.contains
  let status := if names.length < asked.length then 1 else 0
  if letters.contains 'o' then
    let on := letters.contains 's'
    if on || letters.contains 'u' then
      match asked.foldlM (fun o n => o.putNamed? s.language n.toList on) s.options with
      | some options => { s with options }.done 0
      | none => s.done 1
    else
      let isOn (n : String) : Bool := match (Options.names s.language).lookup n with
        | some (letter, usually) => s.options.isOn n letter usually
        | none => false
      s.done (if asked.all isOn then 0 else 1)
  else if letters.contains 's' && !asked.isEmpty then
    { s with wishes := names ++ s.wishes.filter fun w => !names.contains w }.done status
  else if letters.contains 'u' && !asked.isEmpty then
    { s with wishes := s.wishes.filter fun w => !names.contains w }.done status
  else
    let line (n : String) : Raw :=
      let on := s.wishes.contains n
      if letters.contains 'p' then
        rawString (if on then "shopt -s " else "shopt -u ") ++ n.toList ++ ['\n']
      else
        n.toList ++ List.replicate (15 - n.length) ' ' ++
          '\t' :: rawString (if on then "on\n" else "off\n")
    let isShown (n : String) : Bool :=
      s.wishes.contains n && !letters.contains 'u' || !s.wishes.contains n && !letters.contains 's'
    let all := if asked.isEmpty then knownWishes.filter isShown else names
    let s := if letters.contains 'q' then s else s.say 1 (all.flatMap line)
    s.done (if asked.isEmpty || asked.all s.wishes.contains then 0 else 1)

end NativeBuild.Shell
