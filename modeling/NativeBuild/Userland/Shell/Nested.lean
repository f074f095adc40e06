import NativeBuild.Userland.Shell.Jobs

/-!
Running text as a script, shells within shells, and the parts of a script that run beside the
others.
-/

namespace NativeBuild.Shell

/-- The number that stands for the end of a shell where signals do. -/
def exitSignal : Nat := 0

/-- Run the lines of a text, at most `fuel` of them, of which the first one has a given number. -/
def runLinesWithin (go : Go) : Nat → Nat → Raw → State → State × Flow
  | 0, _, _, s => (s, .next)
  | fuel + 1, number, text, s =>
    match nextLine s.grammar text with
    | .done => (s, .next)
    | .fault =>
      ({ s.complain "Syntax error".toList with status := 2 }, if s.isRich then .next else .exit)
    | .line script rest =>
      let skipped := text.count '\n' - (skipLines text).count '\n'
      let after := number + text.count '\n' - rest.count '\n'
      if s.options.noexec then runLinesWithin go fuel after rest s
      else
        let isLast := s.isLast && rest.isEmpty
        match go script { s with line := number + skipped, isLast } with
        | (t, .next) => runLinesWithin go fuel after rest { t with isLast := s.isLast }
        | (t, .abandon) =>
          runLinesWithin go fuel after rest { t with status := 1, isLast := s.isLast }
        | result => result

/-- Run the lines of a text one after the other.  Those in front of one that breaks the grammar are
run. -/
def runLines (go : Go) (text : Raw) (s : State) : State × Flow :=
  runLinesWithin go (text.length + 1) s.line text s

/-- Run what a shell has set to be run at its end, and let its jobs come to theirs. -/
def farewell (go : Go) (result : State × Flow) : State × Exit :=
  match result with
  | (s, .killed n) => (s.settleAll, .signal n)
  | (s, flow) =>
    let s := if flow = .abandon then { s with status := 1 } else s
    match s.traps.find? (·.signal = exitSignal) with
    | none => (s.settleAll, .status s.status)
    | some trap =>
      let inTrap := { s with traps := s.traps.filter (·.signal ≠ exitSignal), guarded := false }
      match runLines go trap.action inTrap with
      | (after, .killed n) => (after.settleAll, .signal n)
      | (after, .exit) => (after.settleAll, .status after.status)
      | (after, _) => (after.settleAll, .status s.status)

/-- A shell within a shell: it has a number of its own, and of what is to be run at signals only
those remain that are ignored. -/
def State.innerAs (s : State) (number : Nat) : State :=
  { s with
    toProcess := { s.toProcess with number }
    nested := true
    jobs := []
    tickets := []
    outlets := []
    traps := s.traps.filter fun t => t.action.isEmpty && t.signal ≠ exitSignal }

/-- A shell within a shell, as a new process. -/
def State.inner (s : State) : State :=
  let (p, number) := s.toProcess.fork
  { s with toProcess := p }.innerAs number

/-- Run the scripts that read what has been written for them, but for those of a state before. -/
def closeOutlets (go : Go) (before : List (Nat × Nat × Raw)) (s : State) : State :=
  let ended := s.outlets.filter fun o => !before.any (·.1 = o.1)
  let close (s : State) (o : Nat × Nat × Raw) : State :=
    let (descriptor, id, script) := o
    let s := s.onProcess fun p => p.setHandle descriptor none
    if script.isEmpty then s
    else
      let (world, text) := s.world.takeBuffer id
      let (world, c) := world.source ⟨text, false⟩
      let inner := { s with world }.inner
      let (after, _) := farewell go
        (runLines go script (inner.onProcess fun p => p.setHandle 0 (some c)))
      { s with toProcess := s.toProcess.after after.toProcess }
  if ended.isEmpty then s else { ended.foldl close s with outlets := before }

/-- End a shell: what it has set to be run at its end is run, its jobs go on to theirs, and so do
the scripts that read what it has written for them. -/
def finish (go : Go) (result : State × Flow) : State × Exit :=
  let (s, exit) := farewell go result
  (closeOutlets go [] s, exit)

/-- Note that a program that the shell has started has ended, if something is to be run then.  It
had a place in the list of jobs. -/
def State.childEnded (s : State) : State :=
  let s := s.freePlace
  if s.traps.any (·.signal = 17) then
    { s with world := { s.world with sent := s.world.sent ++ [(s.number, 17)] } }
  else s

/-- Run a part of a script in a shell of its own: what it does to the world stays, and all else is
forgotten. -/
def isolated (go : Go) (s : State) (part : State → State × Flow) : State × Exit :=
  let (after, exit) := finish go (part s.inner)
  ({ s with toProcess := s.toProcess.after after.toProcess }.childEnded, exit)

/-- Run a script in a shell of its own and take what it prints. -/
def capture (go : Go) (text : Raw) (s : State) : State × Raw :=
  let (world, id) := s.world.buffer
  let s := { s with world }
  let start := skipLines text
  let readsFile :=
    s.isRich && start.head? = some '<' && start[1]? ≠ some '<' && start[1]? ≠ some '('
  let text := if readsFile then rawString "cat " ++ start else text
  let (s, exit) := isolated go s fun s =>
    let s := s.onProcess fun p => p.setHandle 1 (some (.buffer id))
    let s := if s.isRich && !s.options.inheritErrors then
        { s with options := { s.options with errexit := false } } else s
    runLines go text s
  let (world, output) := s.world.takeBuffer id
  let output := output.filter (·.toNat ≠ 0)
  ({ s with world, status := exit.seen, captured := some exit.seen },
    (output.reverse.dropWhile (· = '\n')).reverse)

end NativeBuild.Shell
