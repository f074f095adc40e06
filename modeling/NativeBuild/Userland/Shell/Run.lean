import NativeBuild.Userland.Shell.Simple

/-!
Running shell scripts.  Every function takes `go`, which runs a script that is smaller or that is
run with less fuel; `runWithin` ties the knot.
-/

namespace NativeBuild.Shell

/-- Run a part whose status is only looked at, so that no failure in it ends the shell. -/
def guarded (s : State) (part : State → State × Flow) : State × Flow :=
  let (after, flow) := early { s with guarded := true } part
  ({ after with guarded := s.guarded }, flow)

/-! ### Pipelines and shells within shells -/

/-- Run the stages of a pipeline, each in a shell of its own that reads what the one before printed.
The statuses come in reverse order. -/
def runStages (go : Go) : List Script → List Nat → State → State × List Nat × Flow
  | [], statuses, s => (s, statuses, .next)
  | [last], statuses, s =>
    if s.isRich && s.wishes.contains "lastpipe" then
      let (s, flow) := go last s
      (s, s.status :: statuses, flow)
    else
      let (s, exit) := isolated go s (go last)
      (s, exit.seen :: statuses, .next)
  | stage :: rest, statuses, s =>
    let (world, id) := s.world.buffer
    let (s, exit) := isolated go { s with toProcess := { s.toProcess with world } } fun s =>
      go stage (s.onProcess fun p => p.setHandle 1 (some (.buffer id)))
    let (world, text) := s.world.takeBuffer id
    let (world, c) := world.source ⟨text, false⟩
    let s := s.onProcess fun p => { p with world }.setHandle 0 (some c)
    runStages go rest (exit.seen :: statuses) s

/-- The status of a pipeline, from those of its stages in reverse order. -/
def pipeStatus (failsWithAny : Bool) (statuses : List Nat) : Nat :=
  if failsWithAny then (statuses.find? (· ≠ 0)).getD 0 else statuses.headD 0

/-- Run a pipeline. -/
def runPipe (go : Go) (stages : List Script) (s : State) : State × Flow :=
  let (after, statuses, flow) := runStages go stages [] s
  let status := pipeStatus s.options.pipefail statuses
  let after := { after.restoreHandles s [0] with status }.withStages statuses.reverse
  afterCommand go s.world.clock s.outlets (after, flow)

/-- Run a script in a shell of its own. -/
def runNested (go : Go) (body : Script) (redirects : List Redirect) (s : State) : State × Flow :=
  let inner (s : State) : State × Flow :=
    let (after, exit) := isolated go s (go body)
    after.done exit.seen
  let (after, flow) := redirected go redirects s inner
  afterCommand go s.world.clock s.outlets
    (after.withStages [after.status], flow.getD .next)

/-- Start a script beside the shell. -/
def startJob (go : Go) (body : Script) (s : State) : State × Flow :=
  let (p, number) := s.toProcess.fork
  let s := { s with toProcess := p }
  let run (world : World) : World × Exit :=
    let inner :=
      ({ s with toProcess := { s.toProcess with world } }.innerAs number).onProcess fun p =>
      p.setHandle 0 (some .nothing)
    let isLast := body matches .simple ..
    let (after, exit) := finish go (go body { inner with isLast, guarded := false })
    (after.world, exit)
  let job : Job := ⟨number, s.world.clock, run⟩
  let captions := if s.isRich then body.captions else body.captions.map fun _ => []
  { s.enlist number captions with jobs := job :: s.jobs, lastJob := some number }.done 0

/-! ### Loops -/

/-- How a part of a loop leaves it; `none` if the next turn follows. -/
def leaving : Flow → Option Flow
  | .next => none
  | .continue n => if n ≤ 1 then none else some (.continue (n - 1))
  | .break n => some (if n ≤ 1 then .next else .break (n - 1))
  | flow => some flow

/-- How many turns a loop may take. -/
def maxTurns : Nat := 200000

/-- Run the body of a loop for as long as a condition holds, or fails; `status` is that of the last
turn. -/
def runLoop (go : Go) (whileFails : Bool) (condition body : Script) :
    Nat → Nat → State → State × Flow
  | 0, _, s => (s, .exit)
  | fuel + 1, status, s =>
    match guarded s (go condition) with
    | (s, .next) =>
      if (s.status = 0) = whileFails then ({ s with status }, .next)
      else
        match go body s with
        | (s, flow) =>
          match leaving flow with
          | none => runLoop go whileFails condition body fuel s.status s
          | some flow => (s, flow)
    | (s, flow) =>
      match leaving flow with
      | none => runLoop go whileFails condition body fuel status s
      | some flow => (s, flow)

/-- Run a body for each of some words. -/
def runEach (go : Go) (name : Raw) (body : Script) : List Raw → State → State × Flow
  | [], s => (s, .next)
  | w :: rest, s =>
    let s := s.set name w
    if s.broken then
      let s := { s with broken := false, status := 1 }
      if s.isRich then (s, .next) else ({ s with status := 2 }, .exit)
    else
      match go body s with
      | (s, flow) =>
        match leaving flow with
        | none => runEach go name body rest s
        | some flow => (s, flow)

/-- The value of a sum in a script; nothing if it cannot be worked out. -/
def sumIn (go : Go) (usual : Int) (w : Word) (s : State) : State × Option Int :=
  let (s, text) := oneText go w s
  if s.broken then (s, none)
  else if text.all isSpace then (s, some usual)
  else
    match s.reckon? text with
    | some (n, s) => (s, some n)
    | none => (s.complain (text ++ rawString ": bad sum"), none)

/-- Run the body of a loop for as long as a sum is not zero, with another sum after each turn. -/
def runCount (go : Go) (test step : Word) (body : Script) : Nat → Nat → State → State × Flow
  | 0, _, s => (s, .exit)
  | fuel + 1, status, s =>
    match sumIn go 1 test s with
    | (s, none) => ifWhole s (State.done · 1)
    | (s, some 0) => s.done status
    | (s, some _) =>
      match go body s with
      | (s, flow) =>
        match leaving flow with
        | none =>
          match sumIn go 0 step s with
          | (s, none) => ifWhole s (State.done · 1)
          | (t, some _) => runCount go test step body fuel s.status t
        | some flow => (s, flow)

/-- Run a loop, which its parts may leave. -/
def inLoop (s : State) (part : State → State × Flow) : State × Flow :=
  let (after, flow) := early { s with loops := s.loops + 1 } part
  ({ after with loops := s.loops }, flow)

/-! ### Selections -/

/-- Run a script, or succeed if it is empty. -/
def runBranch (go : Go) (body : Script) (s : State) : State × Flow :=
  if body matches .nothing then s.done 0 else go body s

/-- Whether a text fits one of some patterns. -/
def fitsAny (go : Go) (text : Raw) : List Word → State → State × Bool
  | [], s => (s, false)
  | w :: rest, s =>
    let style :=
      s.language.globStyle (s.wishes.contains "extglob") (s.wishes.contains "nocasematch")
    let (s, pattern) := patternOf go style w s
    if s.broken then (s, false)
    else if pattern.accepts text then (s, true)
    else fitsAny go text rest s

/-- Run the bodies of the arms that are chosen for a text.  `falls` says that the next one is,
whatever its patterns are, and `chosen` that there has been one. -/
def runArms (go : Go) (text : Raw) :
    List (List Word × Script × ArmEnd) → Bool → Bool → State → State × Flow
  | [], _, chosen, s => if chosen then (s, .next) else s.done 0
  | (patterns, body, ending) :: rest, falls, chosen, s =>
    let (s, fits) := if falls then (s, true) else fitsAny go text patterns s
    ifWhole s fun s =>
      if !fits then runArms go text rest false chosen s
      else if ending = .stop then early s (runBranch go body)
      else
        match early s (runBranch go body) with
        | (s, .next) => runArms go text rest (ending = .fall) true s
        | result => result

/-! ### Scripts -/

/-- Run a script one step further than `go` does. -/
def runOnce (go : Go) : Script → State → State × Flow
  | .nothing, s => (s, .next)
  | .simple assigns words redirects, s => runSimple go assigns words redirects s
  | .pipe negated stages, s =>
    let run (s : State) : State × Flow :=
      match stages with
      | [one] => go one s
      | _ => runPipe go stages s
    if negated then
      match guarded s run with
      | (s, .next) => s.done (if s.status = 0 then 1 else 0)
      | result => result
    else run s
  | .join .always first second, s =>
    match early s (go first) with
    | (s, .next) => if first matches .background _ then early s (go second) else go second s
    | result => result
  | .join joint first second, s =>
    match guarded s (go first) with
    | (s, .next) => if (s.status = 0) = (joint = .success) then go second s else (s, .next)
    | result => result
  | .choose condition yes no, s =>
    match guarded s (go condition) with
    | (s, .next) => early s (runBranch go (if s.status = 0 then yes else no))
    | result => result
  | .loop whileFails condition body, s =>
    inLoop s (runLoop go whileFails condition body maxTurns 0)
  | .each name words body, s =>
    let (s, items) := match words with
      | some ws => allWords go ws s
      | none => (s, s.args)
    ifWhole s fun s =>
      if items.isEmpty then s.done 0 else inLoop s (runEach go name body items)
  | .count start test step body, s =>
    match sumIn go 0 start s with
    | (s, none) => ifWhole s (State.done · 1)
    | (s, some _) => inLoop s (runCount go test step body maxTurns 0)
  | .select w arms, s =>
    let (s, text) := oneText go w s
    ifWhole s (runArms go text arms false false)
  | .group body redirects, s =>
    if redirects.isEmpty then early s (go body)
    else
      let started := s.world.clock
      let (after, flow) := redirected go redirects s fun s => early s (go body)
      ifWhole after fun after => afterCommand go started s.outlets (after, flow.getD .next)
  | .nested body redirects, s => runNested go body redirects s
  | .reckon w, s =>
    let (s, n) := sumIn go 0 w s
    ifWhole s fun s => settled go { s with status := if n.getD 0 = 0 then 1 else 0 }
  | .test c, s =>
    let (s, holds) := c.judge go s
    ifWhole s fun s =>
      settled go { s with status := match holds with
        | some true => 0
        | some false => 1
        | none => 2 }
  | .background body, s => startJob go body s
  | .define name body, s =>
    { s with functions := (name, body) :: s.functions.filter (·.1 ≠ name) }.done 0

/-- The signal for a program whose parts lie too deep within each other. -/
def depthSignal : Nat := 11

/-- Run a script with a bound on how deep its parts lie within each other. -/
def runWithin : Nat → Go
  | 0 => fun _ s => (s, .killed depthSignal)
  | fuel + 1 => runOnce (runWithin fuel)

end NativeBuild.Shell
