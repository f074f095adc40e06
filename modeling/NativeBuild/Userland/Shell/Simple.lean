import NativeBuild.Userland.Shell.Builtin.Run
import NativeBuild.Userland.Shell.Redirect

/-!
Simple commands: their words are filled in, their redirections and assignments are made, and then a
function, a command of the shell or a program runs.
-/

namespace NativeBuild.Shell

/-- Go on, unless a word could not be filled in.  That ends a plain shell; a rich one gives up the
line that it is in, or ends if it cannot go on. -/
def ifWhole (s : State) (goOn : State → State × Flow) : State × Flow :=
  if !s.broken then goOn s
  else
    let whole : State := { s with broken := false, doomed := false }
    if !s.isRich then ({ whole with status := 2 }, .exit)
    else if s.doomed then
      let isOpen := s.source = .argument && !s.nested && !s.options.errexit
      ({ whole with status := if isOpen then 127 else 1 }, .exit)
    else ({ whole with status := 1 }, .abandon)

/-- Run a part that is not the last thing that the shell does. -/
def early (s : State) (part : State → State × Flow) : State × Flow :=
  let (after, flow) := part { s with isLast := false }
  ({ after with isLast := s.isLast }, flow)

/-- The number that stands for a failure where signals do. -/
def failureEvent : Nat := 100

/-- The number that stands for the start of a simple command where signals do. -/
def commandEvent : Nat := 101

/-- The number that stands for the end of a function where signals do. -/
def returnEvent : Nat := 102

/-- Run what is to be run at something that happens, unless this is happening there. -/
def runEvent (go : Go) (event : Nat) (s : State) : State × Flow :=
  match s.traps.find? (·.signal = event) with
  | some trap =>
    if !s.isRich || !s.functionNames.isEmpty || trap.action.isEmpty then (s, .next)
    else
      let others := s.traps.filter (·.signal ≠ event)
      let (after, flow) := runTrap go trap { s with traps := others }
      (if after.traps.any (·.signal = event) then after
        else { after with traps := trap :: after.traps }, flow)
  | none => (s, .next)

/-- The flow after a command: a shell that ends at failures ends at this one, unless somebody looks
at the status. -/
def settled (go : Go) (s : State) : State × Flow :=
  if s.status = 0 || s.guarded then (s, .next)
  else
    match runEvent go failureEvent s with
    | (s, .next) => (s, if s.options.errexit then .exit else .next)
    | result => result

/-- The time that must have passed for the jobs to be looked at, in nanoseconds. -/
def glancePause : Nat := 5000000

/-- What comes after a command that started at a time: scripts that read what it wrote run, jobs
that have ended by now are settled, signals are noticed, and a failure may end the shell. -/
def afterCommand (go : Go) (started : Nat) (outlets : List (Nat × Nat × Raw))
    (result : State × Flow) : State × Flow :=
  let (s, flow) := result
  let s := closeOutlets go outlets s
  match flow with
  | .next =>
    let rests := s.jobs.isEmpty || s.world.clock < started + glancePause
    match notice go (if rests then s else s.catchUp) with
    | (s, .next) => settled go s
    | result => result
  | flow => (s, flow)

/-- Keep the statuses of the stages that have just been run. -/
def State.withStages (s : State) (statuses : List Nat) : State :=
  if s.isRich then
    let items := statuses.zipIdx.map fun (status, place) => (place, Text.decimal status)
    s.putVariable "PIPESTATUS".toList { value := some (.list items) }
  else s

/-- Show a command before it is run, if that is wished. -/
def State.trace (s : State) (words : List Raw) : State :=
  if s.options.xtrace then
    let shown := if s.isRich then words.map s.shownValue else words
    s.say 2 ((s.get? "PS4".toList).getD [] ++ spaced shown ++ ['\n'])
  else s

/-! ### The words of a command -/

/-- A command whose words are filled in: the words, or the name of one that declares variables with
what it is asked. -/
inductive Order where
  | words (all : List Raw)
  | declare (name : Raw) (requests : List Request)

/-- The words of a command as they are shown before it is run. -/
def Order.shown : Order → List Raw
  | .words all => all
  | .declare name requests =>
    name :: requests.map fun
      | .word w => w
      | .assign a => a.name

/-- The commands that declare variables. -/
def declarers : Language → List String
  | .plain => ["export", "readonly", "local"]
  | .rich => ["export", "readonly", "local", "declare", "typeset"]

/-- The assignment that a word looks like, if it starts with a name and an equals sign. -/
def assignOf? (w : Word) : Option Assign :=
  match w with
  | .plain text :: rest =>
    let name := text.takeWhile isNameChar
    match text.drop name.length with
    | '=' :: value =>
      if isName name then some ⟨name, none, false, .word (.plain value :: rest)⟩ else none
    | _ => none
  | _ => none

/-- Fill in what a command that declares variables is asked. -/
def fillRequests (go : Go) : List Argument → State → State × List Request
  | [], s => (s, [])
  | a :: rest, s =>
    let assigned (a : Assign) : State × List Request :=
      let (s, setter) := a.fill go s
      (s, [.assign setter])
    let (s, first) : State × List Request :=
      match a with
      | .assign a => assigned a
      | .word w =>
        match if s.isRich then none else assignOf? w with
        | some a => assigned a
        | none =>
          let (s, words) := allWords go [w] s
          (s, words.map .word)
    if s.broken then (s, first)
    else
      let (s, more) := fillRequests go rest s
      (s, first ++ more)

/-- The words among the arguments of a command. -/
def wordsAmong (args : List Argument) : List Word :=
  args.filterMap fun
    | .word w => some w
    | .assign _ => none

/-- Fill in the words of a command; the first of them that stands for something is its name. -/
def fillOrder (go : Go) : List Argument → State → State × Order
  | [], s => (s, .words [])
  | .assign _ :: rest, s => fillOrder go rest s
  | .word w :: rest, s =>
    match allWords go [w] s with
    | (s, []) => if s.broken then (s, .words []) else fillOrder go rest s
    | (s, name :: more) =>
      if s.broken then (s, .words [])
      else if (declarers s.language).contains (String.ofList name) then
        let (s, requests) := fillRequests go rest s
        (s, .declare name (more.map .word ++ requests))
      else
        let (s, words) := allWords go (wordsAmong rest) s
        (s, .words (name :: more ++ words))

/-! ### What runs -/

/-- Run the body of a function with arguments.  What it has as its own goes back to what it was. -/
def callFunction (go : Go) (name : Raw) (body : Script) (args : List Raw) (s : State) :
    State × Flow :=
  let listName := "FUNCNAME".toList
  let functionNames := name :: s.functionNames
  let inner : State :=
    { s with args, hidden := [], loops := 0, depth := s.depth + 1, functionNames, isLast := false }
  let inner := if s.isRich then
      { inner with traps := s.traps.filter (·.signal ≠ returnEvent) }.putVariable listName
        { value := some (.list (functionNames.zipIdx.map fun (n, place) => (place, n))) }
    else inner
  let (after, flow) := leave (go body inner)
  let after := after.hidden.foldl State.restore after
  let after := if s.isRich then after.restore (listName, s.var? listName) else after
  ({ after with
      args := s.args
      hidden := s.hidden
      loops := s.loops
      depth := s.depth
      functionNames := s.functionNames
      isLast := s.isLast },
    if flow = .return then .next else flow)
where
  /-- Do what the function has set to be done when it is left. -/
  leave (result : State × Flow) : State × Flow :=
    let (after, flow) := result
    let atReturn (s : State) : Option Trap := s.traps.find? (·.signal = returnEvent)
    match s.isRich, atReturn after, atReturn s with
    | true, some trap, outer =>
      let others := after.traps.filter (·.signal ≠ returnEvent)
      let (after, _) := runTrap go trap { after with traps := others }
      ({ after with traps := (outer.getD trap) :: after.traps }, flow)
    | true, none, some outer => ({ after with traps := outer :: after.traps }, flow)
    | _, _, _ => (after, flow)

/-- What comes of a fault in a command of the shell itself: it ends a plain shell if it `isFatal`.
-/
def afterBuiltin (isFatal : Bool) (result : State × Flow) : State × Flow :=
  let (s, flow) := result
  if !s.broken then result
  else
    let whole : State := { s with broken := false, doomed := false }
    if s.isRich then ({ whole with status := if s.status = 0 then 1 else s.status }, flow)
    else ({ whole with status := 2 }, if isFatal then .exit else flow)

/-- Run a command: a function, a command of the shell, or a program. -/
def invoke (go : Go) (order : Order) (s : State) : State × Flow :=
  match order with
  | .declare name requests =>
    afterBuiltin (s.isSpecial name) (declareCommand (String.ofList name) requests s)
  | .words words =>
    match askedBy s.language words false false with
    | .nothing => s.done 0
    | .meaning atLength names => commandMeaning atLength names s
    | .run name args isPlain =>
      let isSpecial := s.isSpecial name
      match if isPlain || isSpecial then none else s.functions.lookup name with
      | some body => callFunction go name body args s
      | none =>
        match builtin? go name args s with
        | some result => afterBuiltin (isSpecial && !isPlain) result
        | none => runProgram go name args s

/-- Whether a fault in front of a command ends a plain shell. -/
def Order.isFatal (s : State) : Order → Bool
  | .declare name _ => s.isSpecial name
  | .words (name :: _) => s.isSpecial name
  | .words [] => false

/-- Whether a command keeps its redirections and does nothing else. -/
def Order.isBareExec : Order → Bool
  | .declare _ _ => false
  | .words all =>
    let asked := all.filter (· ≠ ['-', '-'])
    asked = ["exec".toList] || asked = ["command".toList, "exec".toList]

/-- Make assignments in front of a command, and export them; a constant keeps its value. -/
def assignBefore (go : Go) : List Assign → State → State
  | [], s => s
  | a :: rest, s =>
    let (s, setter) := a.fill go s
    if s.broken then s
    else
      let made := setter.make s
      if made.broken then
        if s.isRich then assignBefore go rest { made with broken := false } else made
      else
        let name := made.resolve a.name
        let v := (made.var? name).getD {}
        assignBefore go rest (made.putVariable name { v with exported := true })

/-- Run a command with assignments in front of it, which hold for it alone. -/
def withAssigns (go : Go) (assigns : List Assign) (s : State) (part : State → State × Flow) :
    State × Flow :=
  if assigns.isEmpty then part s
  else
    let names := assigns.map fun a => s.resolve a.name
    ifWhole (assignBefore go assigns s) fun inner =>
      let (after, flow) := part inner
      (names.foldl (fun t n => t.restore (n, s.var? n)) after, flow)

/-- Run a command whose words are filled in. -/
def runOrder (go : Go) (assigns : List Assign) (redirects : List Redirect) (order : Order)
    (s : State) : State × Flow :=
  let keeps := order.isFatal s
  let act (s : State) : State × Flow :=
    match order with
    | .words [] =>
      ifWhole (assignAll go assigns s) fun s =>
        let s := if s.options.xtrace then
            assigns.foldl
              (fun s a => s.trace [a.name ++ '=' :: (s.get? a.name).getD []]) s
          else s
        s.done (s.captured.getD 0)
    | .words words =>
      if !keeps then withAssigns go assigns s (invoke go order)
      else
        let replaces := words.head? = some "exec".toList && 1 < words.length
        let s := if replaces then assignBefore go assigns s else assignAll go assigns s
        ifWhole s (invoke go order)
    | .declare _ _ =>
      if !keeps then withAssigns go assigns s (invoke go order)
      else ifWhole (assignAll go assigns s) (invoke go order)
  if order.isBareExec then
    ifWhole (assignAll go assigns s) fun s =>
      match redirectAll go redirects s with
      | (s, true) => s.done 0
      | (s, false) => ({ s with status := s.redirectFault }, if s.isRich then .next else .exit)
  else
    match redirected go redirects s act with
    | (s, some flow) => (s, flow)
    | (s, none) => ifWhole s fun s => (s, if keeps then .exit else .next)

/-- The time that a simple command takes, in nanoseconds. -/
def commandTime : Nat := 10000

/-- Run a simple command. -/
def runSimple (go : Go) (assigns : List Assign) (words : List Argument)
    (redirects : List Redirect) (s : State) : State × Flow :=
  match runEvent go commandEvent s with
  | (s, .next) =>
    if s.options.noexec then (s, .next) else
    let started := s.world.clock
    let s : State :=
      { s with
        toProcess := { s.toProcess with world := s.world.wait commandTime }
        captured := none }
    let (t, order) := fillOrder go words s
    let (t, flow) := ifWhole t fun t =>
      let run := runOrder go assigns redirects order
      let t := if order.shown.isEmpty then t else t.trace order.shown
      if redirects.isEmpty then run t else early t run
    let outlets := if order.isBareExec then t.outlets else s.outlets
    afterCommand go started outlets (t.withStages [t.status], flow)
  | result => result

end NativeBuild.Shell
