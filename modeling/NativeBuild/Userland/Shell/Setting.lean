import NativeBuild.Userland.Shell.State

/-!
The options of a shell by their letters and their names.
-/

namespace NativeBuild.Shell

namespace Options

/-- Set or clear the option of a letter; letters that change nothing here leave all as it is. -/
def put (o : Options) (letter : Char) (on : Bool) : Options :=
  match letter with
  | 'a' => { o with allexport := on }
  | 'C' => { o with noclobber := on }
  | 'e' => { o with errexit := on }
  | 'f' => { o with noglob := on }
  | 'm' => { o with monitor := on }
  | 'n' => { o with noexec := on }
  | 'u' => { o with nounset := on }
  | 'x' => { o with xtrace := on }
  | _ => o

/-- The letters of the options that a language knows. -/
def letters : Language → String
  | .plain => "efImnsxvVECabui"
  | .rich => "abefhkmnptuvxBCEHPTi"

/-- The options that have names, with their letters and whether they are set at the start; one that
has no letter here changes nothing. -/
def names : Language → List (String × Char × Bool)
  | .plain =>
    [("errexit", 'e', false), ("noglob", 'f', false), ("ignoreeof", 'I', false),
      ("interactive", 'i', false), ("monitor", 'm', false), ("noexec", 'n', false),
      ("stdin", 's', false), ("xtrace", 'x', false), ("verbose", 'v', false), ("vi", 'V', false),
      ("emacs", 'E', false), ("noclobber", 'C', false), ("allexport", 'a', false),
      ("notify", 'b', false), ("nounset", 'u', false), ("nolog", ' ', false), ("debug", ' ', false)]
  | .rich =>
    [("allexport", 'a', false), ("braceexpand", 'B', true), ("emacs", ' ', false),
      ("errexit", 'e', false), ("errtrace", 'E', false), ("functrace", 'T', false),
      ("hashall", 'h', true), ("histexpand", 'H', false), ("history", ' ', false),
      ("ignoreeof", ' ', false), ("interactive-comments", ' ', true), ("keyword", 'k', false),
      ("monitor", 'm', false), ("noclobber", 'C', false), ("noexec", 'n', false),
      ("noglob", 'f', false), ("nolog", ' ', false), ("notify", 'b', false),
      ("nounset", 'u', false), ("onecmd", 't', false), ("physical", 'P', false),
      ("pipefail", ' ', false), ("posix", ' ', false), ("privileged", 'p', false),
      ("verbose", 'v', false), ("vi", ' ', false), ("xtrace", 'x', false)]

/-- Set or clear the option of a letter in a language; in the plain one jobs are not watched without
a terminal. -/
def putIn (o : Options) (language : Language) (letter : Char) (on : Bool) : Options :=
  if language = .plain && letter = 'm' then o else o.put letter on

/-- Set or clear the option of a name, if a language knows it. -/
def putNamed? (o : Options) (language : Language) (name : Raw) (on : Bool) : Option Options :=
  match (names language).lookup (String.ofList name) with
  | none => none
  | some (letter, _) =>
    some (if name = "pipefail".toList then { o with pipefail := on } else o.putIn language letter on)

/-- Whether an option is set. -/
def isOn (o : Options) (name : String) (letter : Char) (usually : Bool) : Bool :=
  if name = "pipefail" then o.pipefail
  else
    match letter with
    | 'a' => o.allexport
    | 'C' => o.noclobber
    | 'e' => o.errexit
    | 'f' => o.noglob
    | 'm' => o.monitor
    | 'n' => o.noexec
    | 'u' => o.nounset
    | 'x' => o.xtrace
    | _ => usually

/-- The options as they are shown: in a table, or as commands that set them. -/
def shown (o : Options) (language : Language) (asCommands : Bool) : Raw :=
  let line (item : String × Char × Bool) : Raw :=
    let (name, letter, usually) := item
    let on := o.isOn name letter usually
    if asCommands then rawString (if on then "set -o " else "set +o ") ++ name.toList
    else
      let width := if language = .rich then 15 else 16
      let pad := List.replicate (width - name.length) ' '
      let gap : Raw := if language = .rich then ['\t'] else []
      name.toList ++ pad ++ gap ++ rawString (if on then "on" else "off")
  let heading : Raw :=
    if language = .plain && !asCommands then "Current option settings\n".toList else []
  heading ++ unlines ((names language).map line)

end Options

/-- What is left of arguments of which those in front are options. -/
structure Setting where
  options : Options
  args : List Raw
  isText : Bool := false
  fromInput : Bool := false
  wishes : Wishes := []
  endsOptions : Bool := false

/-- Read the letters of an argument; `none` if the language does not know one. -/
def Setting.letters (language : Language) (starts on : Bool) : Raw → Setting → Option Setting
  | [], r => some r
  | 'c' :: more, r =>
    if starts then letters language starts on more { r with isText := true } else none
  | 'l' :: more, r => if starts then letters language starts on more r else none
  | 'o' :: more, r =>
    match r.args with
    | [] => letters language starts on more r
    | name :: args =>
      match r.options.putNamed? language name on with
      | some options => letters language starts on more { r with options, args }
      | none => none
  | 'O' :: more, r =>
    match language, starts, r.args with
    | .rich, true, name :: args =>
      letters language starts on more { r with args, wishes := String.ofList name :: r.wishes }
    | _, _, _ => none
  | c :: more, r =>
    if (Options.letters language).toList.contains c || (starts && c = 's') then
      letters language starts on more
        { r with options := r.options.putIn language c on, fromInput := r.fromInput || c = 's' }
    else none

/-- Read options in front of arguments, in at most `fuel` steps.  `starts` says that a shell is
being started with them. -/
def Setting.readWithin (language : Language) (starts : Bool) : Nat → Setting → Option Setting
  | 0, r => some r
  | fuel + 1, r =>
    match r.args with
    | ['-', '-'] :: args => some { r with args, endsOptions := true }
    | ['-'] :: args => some { r with args, endsOptions := starts || !args.isEmpty }
    | ('-' :: '-' :: name) :: args =>
      if !starts || language = .plain then none
      else if name = "init-file".toList ∨ name = "rcfile".toList then
        readWithin language starts fuel { r with args := args.drop 1 }
      else readWithin language starts fuel { r with args }
    | ('-' :: letters) :: args => do
      let r ← Setting.letters language starts true letters { r with args }
      readWithin language starts fuel r
    | ('+' :: letters) :: args =>
      if letters.isEmpty then some r
      else do
        let r ← Setting.letters language starts false letters { r with args }
        readWithin language starts fuel r
    | _ => some r

/-- Read the options in front of arguments; `none` if one is not known. -/
def Setting.read? (language : Language) (starts : Bool) (options : Options) (args : List Raw) :
    Option Setting :=
  Setting.readWithin language starts (args.length + 1) { options, args }

end NativeBuild.Shell
