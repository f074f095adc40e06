import NativeBuild.Userland.Shell.State

/-!
The parts of a script that run beside the shell: how they come to their end, and the list in which
the shell keeps them.
-/

namespace NativeBuild.Shell

/-! ### How jobs end -/

/-- What a job does to the world as it is now: it starts at the time at which it was started. -/
def Job.outcome (j : Job) (w : World) : World × Exit :=
  j.run (w.atTime j.started)

/-- Put the outcome of a job into the shell that started it. -/
def State.settle (s : State) (number : Nat) (outcome : World × Exit) : State :=
  let clock := max s.world.clock outcome.1.clock
  { s with
    world := { outcome.1.atTime clock with limit := s.world.limit, isCut := s.world.isCut }
    jobs := s.jobs.filter (·.number ≠ number)
    tickets := s.tickets.map fun t =>
      if t.number = number then { t with exit := some outcome.2 } else t }

/-- The job that ends first, and its outcome. -/
def State.firstToEnd (s : State) : Option (Job × World × Exit) :=
  s.jobs.foldl
    (fun best j =>
      let outcome := j.outcome s.world
      match best with
      | some (k, w, exit) =>
        if outcome.1.clock < w.clock then some (j, outcome) else some (k, w, exit)
      | none => some (j, outcome)) none

/-- Let jobs come to their end, the first one first, for as long as `goesOn` says so of the shell
and of the time at which the next one ends. -/
def State.settleWhile (goesOn : State → Nat → Bool) : Nat → State → State
  | 0, s => s
  | fuel + 1, s =>
    match s.firstToEnd with
    | none => s
    | some (j, outcome) =>
      if goesOn s outcome.1.clock then settleWhile goesOn fuel (s.settle j.number outcome) else s

/-- Let all jobs come to their end. -/
def State.settleAll (s : State) : State :=
  s.settleWhile (fun _ _ => true) s.jobs.length

/-- Let the jobs come to their end that end by now. -/
def State.catchUp (s : State) : State :=
  s.settleWhile (fun s clock => clock ≤ s.world.clock) s.jobs.length

/-- Let jobs come to their end until one of a given number has. -/
def State.waitFor (s : State) (number : Nat) : State :=
  s.settleWhile (fun s _ => s.jobs.any (·.number = number)) s.jobs.length

/-! ### The list of jobs -/

/-- Whether the place of a job in the list may be given to another one. -/
def Ticket.isFree (t : Ticket) : Bool :=
  t.exit.isSome && t.isTaken

/-- The place in the list for a new job: the first one that is free in the plain language, and the
one behind all jobs that run in the rich one. -/
def State.newPlace (s : State) : Nat :=
  match s.language with
  | .plain =>
    let used := (s.tickets.filter fun t => !t.isFree).map (·.place)
    ((List.range (used.length + 1)).map (· + 1)).find? (fun n => !used.contains n) |>.getD 1
  | .rich => ((s.tickets.filter (·.exit.isNone)).map (·.place)).foldl max 0 + 1

/-- Give a place in the list to whatever is started: a plain shell then forgets a job that had it.
-/
def State.freePlace (s : State) : State :=
  match s.language with
  | .plain =>
    let place := s.newPlace
    { s with tickets := s.tickets.filter (·.place ≠ place) }
  | .rich => s

/-- Put a job into the list. -/
def State.enlist (s : State) (number : Nat) (stages : List Raw) : State :=
  let ticket : Ticket := { place := s.newPlace, number, stages }
  { s.freePlace with tickets := ticket :: s.freePlace.tickets }

/-- How a job in the list has ended. -/
def State.exitOf? (s : State) (number : Nat) : Option Exit :=
  (s.tickets.find? (·.number = number)).bind (·.exit)

/-- Note that jobs have been waited for. -/
def State.take (s : State) (which : Ticket → Bool) : State :=
  { s with tickets := s.tickets.map fun t => if which t then { t with isTaken := true } else t }

/-- The job that a text with a percent sign stands for: the newest one, the one before it, or the
one at a place. -/
def State.ticket? (s : State) (text : Raw) : Option Ticket :=
  match text with
  | ['%'] => s.tickets.head?
  | ['%', '%'] => s.tickets.head?
  | ['%', '+'] => s.tickets.head?
  | ['%', '-'] => s.tickets[1]?
  | '%' :: rest =>
    match Text.decimal? rest with
    | some n => s.tickets.find? (·.place = n)
    | none =>
      if s.isRich then s.tickets.find? fun t => t.exit.isNone && rest.isPrefixOf (t.stages.headD [])
      else none
  | _ => none

/-- What is said of a program that a signal has ended. -/
def signalWords (n : Nat) : String :=
  match n with
  | 1 => "Hangup"
  | 2 => "Interrupt"
  | 3 => "Quit"
  | 4 => "Illegal instruction"
  | 5 => "Trace/breakpoint trap"
  | 6 => "Aborted"
  | 7 => "Bus error"
  | 8 => "Floating point exception"
  | 9 => "Killed"
  | 10 => "User defined signal 1"
  | 11 => "Segmentation fault"
  | 12 => "User defined signal 2"
  | 13 => "Broken pipe"
  | 14 => "Alarm clock"
  | 15 => "Terminated"
  | _ => "Unknown signal"

/-- What is said of how a job has ended, or that it runs. -/
def Ticket.condition (t : Ticket) : Raw :=
  match t.exit with
  | none => rawString "Running"
  | some (.status 0) => rawString "Done"
  | some (.status n) => rawString "Done(" ++ Text.decimal n ++ [')']
  | some (.signal n) => rawString (signalWords n)

/-- The line for a job in a list in which `newest` and `second` come first; it shows its number if
that `isAsked`. -/
def Ticket.line (t : Ticket) (language : Language) (newest second : Option Nat) (isAsked : Bool) :
    Raw :=
  let sign := if newest = some t.number then '+' else if second = some t.number then '-' else ' '
  let number := if isAsked then Text.decimal t.number ++ [' '] else []
  let place := '[' :: Text.decimal t.place ++ [']']
  let filled (width : Nat) (text : Raw) : Raw := text ++ List.replicate (width - text.length) ' '
  let stages := [' ', '|', ' '].intercalate t.stages
  match language with
  | .plain => filled 33 (place ++ [' ', sign, ' '] ++ number ++ t.condition) ++ stages ++ ['\n']
  | .rich =>
    let gap := if isAsked then [' '] else [' ', ' ']
    place ++ sign :: gap ++ number ++ filled 24 t.condition ++ stages ++ rawString " &\n"

/-- Show jobs, each as `line` does with those that then come first; a plain shell forgets one that
has ended once it is shown. -/
def State.showJobs (isAsked : Bool) (shown : List Ticket) (s : State) : State :=
  shown.foldl
    (fun s t =>
      let listed := if s.isRich then s.tickets.filter (·.exit.isNone) else s.tickets
      let s :=
        s.say 1 (t.line s.language (listed[0]?.map (·.number)) (listed[1]?.map (·.number)) isAsked)
      if s.isRich || t.exit.isNone then s
      else { s with tickets := s.tickets.filter (·.number ≠ t.number) }) s

/-! ### What a job is shown as -/

/-- A part of a word as a list of jobs shows it. -/
def Piece.caption : Piece → Raw
  | .plain text => text
  | .quoted text => '"' :: text ++ ['"']
  | .value name _ _ _ isQuoted => if isQuoted then '"' :: '$' :: name ++ ['"'] else '$' :: name
  | _ => []

/-- The stages of a script as a list of jobs shows them; of those that are no simple commands only
their number is kept. -/
def Script.captions : Script → List Raw
  | .simple _ words _ =>
    [spaced (words.map fun
      | .word w => w.flatMap Piece.caption
      | .assign a => a.name)]
  | .pipe _ stages => stages.map fun
    | .simple _ words _ =>
      spaced (words.map fun
        | .word w => w.flatMap Piece.caption
        | .assign a => a.name)
    | _ => []
  | _ => [[]]

end NativeBuild.Shell
