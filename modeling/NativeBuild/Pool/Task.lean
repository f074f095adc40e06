import NativeBuild.Failure
import NativeBuild.Path.Absolute
import NativeBuild.Text.Quoted

/-!
Tasks: what they need and produce, how far they have come, and the work that they do.
-/

namespace NativeBuild

/-- How tasks run: beside each other on a bounded number of workers, or each one to its end when it
is submitted. -/
inductive Mode where
  | pooled
  | inline
  deriving DecidableEq

/-- What a failed task means for those that need it: they go on with the path that it should have
produced, or they fail too. -/
inductive Policy where
  | bestEffort
  | strict
  deriving DecidableEq

/-- The number of a task: its place in the order of submission. -/
abbrev TaskId := Nat

/-- A path that is known, or the output of a task. -/
inductive PathRef where
  | literal (p : Path)
  | task (id : TaskId)
  deriving DecidableEq

/-- What a task came to.  A failed task still names the path that it should have produced. -/
inductive Outcome where
  | completed (output : Option Path)
  | failed (nominal : Option Path) (message : String)
  deriving DecidableEq

namespace Outcome

/-- The path that was produced, or that should have been. -/
def path? : Outcome → Option Path
  | .completed output => output
  | .failed nominal _ => nominal

/-- The path that a task's outcome gives to those that need it.  `label` is the task's. -/
def resolve (here : Path) (policy : Policy) (label : String) : Outcome → Except Failure Path
  | .completed (some p) => .ok (p.absolute here)
  | .completed none => .error (.noOutput label)
  | .failed nominal message =>
    match policy, nominal with
    | .bestEffort, some p => .ok (p.absolute here)
    | _, _ => .error (.taskFailed label message)

end Outcome

/-- What is known of a task from outside. -/
inductive TaskState where
  | pending
  | running
  | finished (outcome : Outcome)
  deriving DecidableEq

namespace TaskState

/-- The outcome of a finished task. -/
def outcome? : TaskState → Option Outcome
  | .finished o => some o
  | _ => none

/-- Record an outcome.  The first one stays. -/
def finish (s : TaskState) (o : Outcome) : TaskState :=
  match s with
  | .finished first => .finished first
  | _ => .finished o

/-- The word for a state. -/
def status : TaskState → String
  | .pending => "Pending"
  | .running => "Running"
  | .finished (.completed _) => "Completed"
  | .finished (.failed _ _) => "Failed"

end TaskState

/-- What a task is called, the path that it produces and the paths that it needs first. -/
structure TaskSpec where
  label : String
  output : Option Path
  inputs : List PathRef
  deriving DecidableEq

/-- The work of a task, step by step, in a world `σ`.  Work ends with a result or unwinds; on the
way it acts on the world, waits for the world, asks for the outcome of a task and submits further
tasks, whose bodies it brings along. -/
inductive Work (σ : Type) where
  | done (result : Except Failure Unit)
  | unwind
  | act (effect : σ → σ × Except Failure String) (next : Except Failure String → Work σ)
  | await (ready : σ → Bool) (next : Work σ)
  | ask (id : TaskId) (next : Except Failure Outcome → Work σ)
  | submit (spec : TaskSpec) (body : List Path → Work σ) (next : TaskId → Work σ)

/-- How far a task has come: listed but with no worker that could take it; taken up; waiting for the
inputs in `rest`, or, when none is left, for a permit; at work; about to record that the task `id`,
which it has submitted, is running; or ended, by unwinding or not. -/
inductive Stage (σ : Type) where
  | listed
  | created
  | gathering (found : List Path) (rest : List PathRef)
  | working (work : Work σ)
  | tracking (id : TaskId) (work : Work σ)
  | ended (unwound : Bool)

/-- A task.  `calls` holds the paths that its body has been called with. -/
structure Task (σ : Type) where
  spec : TaskSpec
  body : List Path → Work σ
  state : TaskState
  stage : Stage σ
  calls : List (List Path)

namespace Task

variable {σ : Type}

/-- A task that has just been listed. -/
def fresh (spec : TaskSpec) (body : List Path → Work σ) : Task σ :=
  ⟨spec, body, .pending, .listed, []⟩

/-- The message of a task that ended without an outcome of its own. -/
def abandoned : String := "task abandoned before finishing"

/-- The outcome of a task with the given result. -/
def outcomeOf (t : Task σ) : Except Failure Unit → Outcome
  | .ok () => .completed t.spec.output
  | .error e => .failed t.spec.output e.message

/-- The outcome that is recorded when a task ends and has recorded none. -/
def abandonment (t : Task σ) : Outcome :=
  .failed t.spec.output abandoned

/-- End a task.  What guards it records the loss of an outcome, which counts only if there is none.
-/
def close (t : Task σ) (unwound : Bool) : Task σ :=
  { t with state := t.state.finish t.abandonment, stage := .ended unwound }

/-- End a task with a result. -/
def finish (t : Task σ) (result : Except Failure Unit) : Task σ :=
  { t with state := t.state.finish (t.outcomeOf result) }.close false

/-- End a task whose input is not to be had. -/
def refuse (t : Task σ) (e : Failure) : Task σ :=
  let outcome : Outcome := .failed t.spec.output ("input unavailable: " ++ e.message)
  { t with state := t.state.finish outcome }.close false

/-- Call the body of a task. -/
def call (t : Task σ) (inputs : List Path) : Task σ :=
  { t with state := .running, stage := .working (t.body inputs), calls := t.calls ++ [inputs] }

/-- The text that shows a task to a developer. -/
def describe (t : Task σ) : String :=
  "Handle \x7b label: " ++ String.ofList (Text.quoted t.spec.label.toList) ++ ", status: " ++
    t.state.status ++ " \x7d"

end Task

end NativeBuild
