import NativeBuild.Userland.Tool.Grep
import NativeBuild.Userland.Tool.List
import NativeBuild.Userland.Tool.Start

/-!
The tool that walks through directories and does something with what fits a description.
-/

namespace NativeBuild.Tool

open Shell
open Text (Regex Subject)

/-- How a number is compared with a wanted one. -/
inductive Bound where
  | exactly (n : Nat)
  | more (n : Nat)
  | less (n : Nat)

/-- Whether a number is a wanted one. -/
def Bound.holds : Bound → Int → Bool
  | exactly n, m => m = n
  | more n, m => m > n
  | less n, m => m < n

/-- What is asked of a file, and what is done with it. -/
inductive Search where
  | always (holds : Bool)
  | name (pattern : Raw) (folds : Bool)
  | path (pattern : Raw) (folds : Bool)
  | regex (r : Regex) (folds : Bool)
  | kind (letters : Raw)
  | size (wanted : Bound) (unit : Nat)
  | links (wanted : Bound)
  | age (wanted : Bound) (unit : Nat)
  | newer (time : Int)
  | mode (how : Char) (bits : Nat)
  | empty
  | executable
  | same (loc : Location)
  | print (stop : Raw)
  | printf (format : Raw)
  | exec (words : List Raw) (inDirectory : Bool)
  | execAll (words : List Raw)
  | delete
  | prune
  | quit
  | not (a : Search)
  | both (a b : Search)
  | either (a b : Search)
  | list (a b : Search)

/-- Whether something is done with a file, so that its path is not printed anyhow. -/
def Search.acts : Search → Bool
  | .print _ => true
  | .printf _ => true
  | .exec _ _ => true
  | .execAll _ => true
  | .delete => true
  | .not a => a.acts
  | .both a b => a.acts || b.acts
  | .either a b => a.acts || b.acts
  | .list a b => a.acts || b.acts
  | _ => false

/-- Whether files are taken away, so that directories come after what is in them. -/
def Search.deletes : Search → Bool
  | .delete => true
  | .not a => a.deletes
  | .both a b => a.deletes || b.deletes
  | .either a b => a.deletes || b.deletes
  | .list a b => a.deletes || b.deletes
  | _ => false

/-- How deep a walk goes, from which depth on files count, whether directories come last, and which
form regular expressions have. -/
structure WalkRule where
  least : Nat := 0
  most : Option Nat := none
  depthFirst : Bool := false
  follows : Bool := false
  isExtended : Bool := false

/-- A file that a walk has come to: its path, the start of the walk, its depth, and what it is. -/
structure Visited where
  path : Raw
  root : Raw
  depth : Nat
  loc : Location
  entry : Entry

/-- What a walk has come to: whether it does not go into the directory it is at, and whether it is
over; the paths that are gathered for a command; and the status. -/
structure WalkState where
  prunes : Bool := false
  quits : Bool := false
  gathered : List (List Raw × List Raw) := []
  status : Nat := 0

/-- A number with the sign of a comparison in front. -/
def wanted? (text : Raw) : Option Bound :=
  match text with
  | '+' :: digits => (Text.decimal? digits).map .more
  | '-' :: digits => (Text.decimal? digits).map .less
  | digits => (Text.decimal? digits).map .exactly

/-- A size with a letter for its unit behind it. -/
def wantedSize? (text : Raw) : Option Search :=
  let units : List (Char × Nat) :=
    [('c', 1), ('w', 2), ('b', 512), ('k', 1024), ('M', 1048576), ('G', 1073741824)]
  match text.getLast?.bind fun c => units.lookup c with
  | some unit => (wanted? text.dropLast).map (.size · unit)
  | none => (wanted? text).map (.size · 512)

/-- A regular expression with repetitions marked by plain signs, in the form in which they are
marked by signs behind a backslash. -/
def markedForm : Raw → Raw
  | '\\' :: c :: rest => '\\' :: c :: markedForm rest
  | c :: rest => if c = '+' || c = '?' then '\\' :: c :: markedForm rest else c :: markedForm rest
  | [] => []

/-- The state of reading a description: what has been set for the whole walk. -/
abbrev ReadSearch := Option (Search × WalkRule × List Raw)

mutual

/-- Read descriptions of which each is tried. -/
def readListed (p : Process) : Nat → WalkRule → List Raw → ReadSearch
  | 0, _, _ => none
  | fuel + 1, rule, args => do
    let (a, rule, rest) ← readAnyOf p fuel rule args
    match rest with
    | [','] :: rest =>
      let (b, rule, rest) ← readListed p fuel rule rest
      some (.list a b, rule, rest)
    | _ => some (a, rule, rest)

/-- Read descriptions of which one must fit. -/
def readAnyOf (p : Process) : Nat → WalkRule → List Raw → ReadSearch
  | 0, _, _ => none
  | fuel + 1, rule, args => do
    let (a, rule, rest) ← readAllOf p fuel rule args
    match rest with
    | op :: more =>
      if op = "-o".toList ∨ op = "-or".toList then
        let (b, rule, rest) ← readAnyOf p fuel rule more
        some (.either a b, rule, rest)
      else some (a, rule, rest)
    | [] => some (a, rule, [])

/-- Read descriptions which must fit together. -/
def readAllOf (p : Process) : Nat → WalkRule → List Raw → ReadSearch
  | 0, _, _ => none
  | fuel + 1, rule, args => do
    let (a, rule, rest) ← readOneSearch p fuel rule args
    match rest with
    | [] => some (a, rule, [])
    | op :: more =>
      if [",", ")", "-o", "-or"].contains (String.ofList op) then some (a, rule, rest)
      else
        let rest := if op = "-a".toList ∨ op = "-and".toList then more else rest
        let (b, rule, rest) ← readAllOf p fuel rule rest
        some (.both a b, rule, rest)

/-- Read one description. -/
def readOneSearch (p : Process) : Nat → WalkRule → List Raw → ReadSearch
  | 0, _, _ => none
  | _, _, [] => none
  | fuel + 1, rule, op :: args =>
    let alone (a : Search) : ReadSearch := some (a, rule, args)
    let text (make : Raw → Option Search) : ReadSearch :=
      match args with
      | value :: rest => (make value).map (·, rule, rest)
      | [] => none
    let global (change : Nat → WalkRule) : ReadSearch :=
      match args with
      | value :: rest => (Text.decimal? value).map fun n => (.always true, change n, rest)
      | [] => none
    let expression (folds : Bool) : ReadSearch := text fun value =>
      let r := if rule.isExtended then Regex.parse? .extended value
        else Regex.parse? .basic (markedForm value)
      r.map (.regex · folds)
    let command (inDirectory : Bool) : ReadSearch :=
      let words := args.takeWhile (· ≠ [';'])
      let finish : ReadSearch :=
        if words.isEmpty ∨ words.length = args.length then none
        else some (.exec words inDirectory, rule, args.drop (words.length + 1))
      match words.findIdx? fun w => w = ['+'] with
      | some k =>
        if k ≠ 0 ∧ args[k - 1]? = some "\x7b\x7d".toList then
          some (.execAll (args.take (k - 1)), rule, args.drop (k + 1))
        else finish
      | none => finish
    match String.ofList op with
    | "(" => do
      let (a, rule, rest) ← readListed p fuel rule args
      match rest with
      | [')'] :: rest => some (a, rule, rest)
      | _ => none
    | "!" => (readOneSearch p fuel rule args).map fun (a, rule, rest) => (.not a, rule, rest)
    | "-not" => (readOneSearch p fuel rule args).map fun (a, rule, rest) => (.not a, rule, rest)
    | "-name" => text fun v => some (.name v false)
    | "-iname" => text fun v => some (.name v true)
    | "-path" => text fun v => some (.path v false)
    | "-wholename" => text fun v => some (.path v false)
    | "-ipath" => text fun v => some (.path v true)
    | "-regex" => expression false
    | "-iregex" => expression true
    | "-regextype" =>
      match args with
      | value :: rest =>
        some (.always true,
          { rule with isExtended := value ≠ "emacs".toList && value ≠ "posix-basic".toList }, rest)
      | [] => none
    | "-type" => text fun v => some (.kind v)
    | "-xtype" => text fun v => some (.kind v)
    | "-size" => text wantedSize?
    | "-links" => text fun v => (wanted? v).map .links
    | "-mtime" => text fun v => (wanted? v).map (.age · 86400)
    | "-mmin" => text fun v => (wanted? v).map (.age · 60)
    | "-newer" => text fun v => (p.entryAt true v).map fun (loc, _) => .newer (p.files.changed loc)
    | "-samefile" => text fun v => (p.entryAt true v).map fun (loc, _) => .same loc
    | "-perm" => text fun v =>
      match v with
      | '-' :: more => (newMode? 0 false more 0).map (.mode '-')
      | '/' :: more => (newMode? 0 false more 0).map (.mode '/')
      | _ => (newMode? 0 false v 0).map (.mode '=')
    | "-user" => text fun v => some (.always (v = "root".toList || v = ['0']))
    | "-group" => text fun v => some (.always (v = "root".toList || v = ['0']))
    | "-empty" => alone .empty
    | "-executable" => alone .executable
    | "-readable" => alone (.always true)
    | "-writable" => alone (.always true)
    | "-true" => alone (.always true)
    | "-false" => alone (.always false)
    | "-print" => alone (.print ['\n'])
    | "-print0" => alone (.print [Char.ofNat 0])
    | "-printf" => text fun v => some (.printf v)
    | "-exec" => command false
    | "-execdir" => command true
    | "-delete" => alone .delete
    | "-prune" => alone .prune
    | "-quit" => alone .quit
    | "-maxdepth" => global fun n => { rule with most := some n }
    | "-mindepth" => global fun n => { rule with least := n }
    | "-depth" => some (.always true, { rule with depthFirst := true }, args)
    | "-follow" => some (.always true, { rule with follows := true }, args)
    | "-mount" => alone (.always true)
    | "-xdev" => alone (.always true)
    | "-daystart" => alone (.always true)
    | "-noleaf" => alone (.always true)
    | "-nowarn" => alone (.always true)
    | _ => none

end

/-- The letter of a kind of file. -/
def kindLetter : Entry → Char
  | .directory => 'd'
  | .link _ => 'l'
  | .here => 'l'
  | .pipe => 'p'
  | .nothing => 'c'
  | .zeros => 'c'
  | _ => 'f'

/-- What a format shows of a file, in at most `fuel` steps. -/
def visitedText (p : Process) (v : Visited) : Nat → Raw → Raw
  | 0, _ => []
  | _, [] => []
  | fuel + 1, '\\' :: c :: rest =>
    let text : Raw := match c with
      | 'n' => ['\n']
      | 't' => ['\t']
      | '0' => [Char.ofNat 0]
      | '\\' => ['\\']
      | _ => ['\\', c]
    text ++ visitedText p v fuel rest
  | fuel + 1, '%' :: 'T' :: '@' :: rest =>
    let time := p.files.changed v.loc
    let seconds := Calendar.startSecond + time / 1000000000
    let digits := Text.decimal (time % 1000000000).toNat
    Text.signedDecimal seconds ++ ['.'] ++ List.replicate (9 - digits.length) '0' ++ digits ++
      ['0'] ++
      visitedText p v fuel rest
  | fuel + 1, '%' :: c :: rest =>
    let text : Raw := match c with
      | 'p' => v.path
      | 'f' => lastPart v.path []
      | 'h' => abovePart v.path
      | 'H' => v.root
      | 'P' => (v.path.drop v.root.length).dropWhile (· = '/')
      | 's' => Text.decimal ((Listed.size ⟨v.path, v.path, v.loc, v.entry⟩))
      | 'd' => Text.decimal v.depth
      | 'y' => [kindLetter v.entry]
      | 'm' => Text.digits 8 (p.files.mode v.loc v.entry)
      | 'M' => modeText v.entry (p.files.mode v.loc v.entry)
      | 'n' => Text.decimal (p.files.namesOf v.loc).length
      | 'u' => "root".toList
      | 'g' => "root".toList
      | 'U' => ['0']
      | 'G' => ['0']
      | 'l' => match v.entry with
        | .link target => rawText target.chars
        | _ => []
      | '%' => ['%']
      | _ => ['%', c]
    text ++ visitedText p v fuel rest
  | fuel + 1, c :: rest => c :: visitedText p v fuel rest

/-- What a walk does. -/
abbrev Walk := StateT WalkState Act

/-- Run a command with a path in the places that are marked for it. -/
def runFor (c : Call) (words : List Raw) (path : Raw) : Act Bool := do
  match words.map fun w => replaceMark "\x7b\x7d".toList path (w.length + 1) w with
  | program :: args =>
    match ← c.spawn false program args with
    | .ok exit => return exit = .status 0
    | .error e =>
      c.complain (fileFault program e)
      return false
  | [] => return false

/-- Whether a file fits a description; what is to be done with it is done. -/
def Search.judge (c : Call) (v : Visited) : Search → Walk Bool
  | .always holds => return holds
  | .name pattern folds => return fits folds pattern (lastPart v.path [])
  | .path pattern folds => return fits folds pattern v.path
  | .regex r folds =>
    let subject : Subject := ⟨v.path.toArray, folds⟩
    return (r.matchAt subject 0).any fun m => m.stop = v.path.length
  | .kind letters => return letters.contains (kindLetter v.entry)
  | .size wanted unit =>
    let bytes := (Listed.size ⟨v.path, v.path, v.loc, v.entry⟩)
    return wanted.holds ((bytes + unit - 1) / unit : Nat)
  | .links wanted => return wanted.holds ((← getThe Process).files.namesOf v.loc).length
  | .age wanted unit => do
    let p ← getThe Process
    let age := (p.world.clock : Int) - p.files.changed v.loc
    return wanted.holds (age / 1000000000 / unit)
  | .newer time => return (← getThe Process).files.changed v.loc > time
  | .mode how bits => do
    let mode := (← getThe Process).files.mode v.loc v.entry
    return match how with
      | '-' => mode &&& bits = bits
      | '/' => bits = 0 || mode &&& bits ≠ 0
      | _ => mode = bits
  | .empty => do
    let p ← getThe Process
    return match v.entry with
      | .directory => (p.files.inside v.loc).isEmpty
      | .file bytes _ => bytes.isEmpty
      | _ => false
  | .executable => return (← getThe Process).isExecutable v.path
  | .same loc => return ((← getThe Process).files.namesOf loc).contains v.loc
  | .print stop => do
    out (v.path ++ stop)
    return true
  | .printf format => do
    out (visitedText (← getThe Process) v (format.length + 1) format)
    return true
  | .exec words inDirectory => do
    if inDirectory then
      let p ← getThe Process
      let here := v.loc.dropLast
      modifyThe Process fun p => { p with here }
      let holds ← (runFor c words ("./".toList ++ lastPart v.path []) : Act Bool)
      modifyThe Process fun after => { after with here := p.here }
      return holds
    else (runFor c words v.path : Act Bool)
  | .execAll words => do
    let gathered := (← getThe WalkState).gathered
    let gathered := if gathered.any (·.1 = words) then
        gathered.map fun g => if g.1 = words then (words, v.path :: g.2) else g
      else gathered ++ [(words, [v.path])]
    modifyThe WalkState fun s => { s with gathered }
    return true
  | .delete => do
    let p ← getThe Process
    let isFull := v.entry = .directory && !(p.files.inside v.loc).isEmpty
    if isFull || v.path = ['.'] then
      modifyThe WalkState fun s => if isFull then { s with status := 1 } else s
      return !isFull
    else
      set (p.withFiles (p.files.drop v.loc))
      return true
  | .prune => do
    modifyThe WalkState fun s => { s with prunes := true }
    return true
  | .quit => do
    modifyThe WalkState fun s => { s with quits := true }
    return true
  | .not a => return !(← a.judge c v)
  | .both a b => do
    if !(← a.judge c v) || (← getThe WalkState).quits then return false else b.judge c v
  | .either a b => do
    if (← a.judge c v) || (← getThe WalkState).quits then return true else b.judge c v
  | .list a b => do
    let _ ← a.judge c v
    b.judge c v
where
  /-- Whether a text matches a pattern of names. -/
  fits (folds : Bool) (pattern text : Raw) : Bool :=
    (Pattern.of (Language.rich.globStyle false folds) (pattern.map (·, false))).accepts text

/-- Walk through what stands at a path and below it, at most `fuel` levels deep. -/
def walkFrom (c : Call) (rule : WalkRule) (search : Search) : Nat → Visited → Walk Unit
  | 0, _ => return ()
  | fuel + 1, v => do
    if (← getThe WalkState).quits then return ()
    let judged : Walk Unit := do
      if rule.least ≤ v.depth then
        let _ ← search.judge c v
    modifyThe WalkState fun s => { s with prunes := false }
    if !rule.depthFirst then judged
    let s ← getThe WalkState
    let goesOn := !s.quits && (rule.depthFirst || !s.prunes) &&
      (match rule.most with
        | some most => v.depth < most
        | none => true)
    if goesOn && v.entry = .directory then
      let files := (← getThe Process).files
      let names := ((files.inside v.loc).map Prod.fst).mergeSort fun a b =>
        inOrder (rawText a) (rawText b)
      for name in names do
        let loc := v.loc ++ [name]
        match (← getThe Process).files.at? loc with
        | some entry =>
          let path := below v.path (rawText name)
          let p ← getThe Process
          let (loc, entry) := if rule.follows then (p.entryAt true path).getD (loc, entry)
            else (loc, entry)
          walkFrom c rule search fuel ⟨path, v.root, v.depth + 1, loc, entry⟩
        | none => pure ()
    if rule.depthFirst && !(← getThe WalkState).quits then judged

/-- Walk through directories. -/
def find (c : Call) : Act Exit := do
  let lead := c.args.takeWhile fun a => ["-H", "-L", "-P"].contains (String.ofList a)
  let args := c.args.drop lead.length
  let isStart (a : Raw) : Bool :=
    a.head? ≠ some '-' && !(["(", ")", "!", ","].contains (String.ofList a))
  let starts := args.takeWhile isStart
  let args := args.drop starts.length
  let starts := if starts.isEmpty then [['.']] else starts
  let base : WalkRule := { follows := lead.getLast? = some "-L".toList }
  let p ← get
  let read : ReadSearch := if args.isEmpty then some (.print ['\n'], base, [])
    else readListed p (4 * args.length + 8) base args
  match read with
  | some (search, rule, []) =>
    let search := if search.acts then search else .both search (.print ['\n'])
    let rule := if search.deletes then { rule with depthFirst := true } else rule
    let walk : Walk Unit := do
      for start in starts do
        let p ← getThe Process
        match p.files.find p.here (rule.follows || start.getLast? = some '/') (rawPath start) with
        | .ok (loc, entry) => walkFrom c rule search 1000 ⟨start, start, 0, loc, entry⟩
        | .error e =>
          c.complain (fileFault start e)
          modifyThe WalkState fun s => { s with status := 1 }
    let (_, s) ← walk.run {}
    let mut status := s.status
    for (words, paths) in s.gathered do
      match words ++ paths.reverse with
      | program :: args =>
        match ← c.spawn false program args with
        | .ok (.status 0) => pure ()
        | _ => status := 1
      | [] => pure ()
    return .status status
  | _ =>
    c.complain (rawString "invalid expression")
    return .status 1

end NativeBuild.Tool
