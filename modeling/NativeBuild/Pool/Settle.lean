import NativeBuild.Pool.Load

/-!
Running a pool until it rests, and everything a caller outside may ask of it: submitting, looking,
waiting for one task, waiting for all, and the report at the end.  A call that waits answers with
`none` if what it waits for never comes.
-/

namespace NativeBuild

/-- How the call that submits a task ends: it returns, or a panic of the work leaves it, or it waits
without end. -/
inductive Submission where
  | returned
  | unwound
  | stuck
  deriving DecidableEq

/-- A failed task in a report. -/
structure TaskFailure where
  label : String
  message : String
  deriving DecidableEq

/-- The account of all tasks: how many completed, and the others in the order of their submission.
-/
structure Report where
  completed : Nat
  failed : List TaskFailure
  deriving DecidableEq

namespace Report

/-- Whether no task failed. -/
def isSuccess (r : Report) : Bool :=
  r.failed.isEmpty

/-- The number of tasks. -/
def total (r : Report) : Nat :=
  r.completed + r.failed.length

end Report

namespace Pool

variable {σ : Type}

/-- The pool after a step of the first task that can make one. -/
def advance? (p : Pool σ) : Option (Pool σ) :=
  (List.range p.tasks.length).findSome? p.step?

theorem step_of_advance? {p q : Pool σ} (h : p.advance? = some q) : p.Step q := by
  obtain ⟨id, _, h⟩ := List.exists_of_findSome?_eq_some h
  exact ⟨id, h⟩

/-- Loads, compared by what one step or several do to them. -/
instance loadsWellFounded : WellFoundedRelation (List (Load σ)) :=
  ⟨Relation.TransGen (Replaces Load.Lighter), (Replaces.wf Load.wf).transGen⟩

/-- Run a pool until no task can make a step. -/
def settle (p : Pool σ) : Pool σ :=
  match _h : p.advance? with
  | none => p
  | some q => settle q
termination_by p.loads
decreasing_by
  obtain ⟨_, h⟩ := step_of_advance? _h
  exact .single (loads_step h)

theorem advance?_settle (p : Pool σ) : p.settle.advance? = none := by
  fun_induction settle p with
  | case1 p h => exact h
  | case2 p q h ih => exact ih

/-- A pool at rest stays as it is. -/
theorem settle_eq_self {p : Pool σ} (h : p.advance? = none) : p.settle = p := by
  unfold settle
  split
  · rfl
  next q hq => rw [h] at hq; exact nomatch hq

/-- What a run of steps does to the running list and to what is left: either nothing has happened,
or something is lighter. -/
theorem settle_lighter (p : Pool σ) :
    p.settle = p ∨ Relation.TransGen (Replaces Load.Lighter) p.settle.loads p.loads := by
  fun_induction settle p with
  | case1 p h => exact .inl rfl
  | case2 p q h ih =>
    obtain ⟨_, h⟩ := step_of_advance? h
    refine .inr ?_
    rcases ih with e | ih
    · rw [e]; exact .single (loads_step h)
    · exact .tail ih (loads_step h)

/-- Whether a caller may wait; `label` names what it waits for. -/
def mayWait (caller : Caller) (label : String) : Except Failure Unit :=
  match caller with
  | .outside => .ok ()
  | .inside => .error (.wouldBlock label)

/-- Whether a task has ended, and whether it did so by unwinding. -/
def ending? (p : Pool σ) (id : TaskId) : Option Bool :=
  match p.tasks[id]? with
  | some t =>
    match t.stage with
    | .ended unwound => some unwound
    | _ => none
  | none => none

/-- Submit a task.  In inline mode it has ended when the call returns, and a panic of its work
leaves the call; inside the runtime an inline task cannot be driven at all. -/
def submit (p : Pool σ) (caller : Caller) (spec : TaskSpec) (body : List Path → Work σ) :
    Pool σ × TaskId × Submission :=
  let (p, id) := p.enlist (Task.fresh spec body)
  match p.config.mode, caller with
  | .pooled, _ => ((p.spawn id).track id, id, .returned)
  | .inline, .inside => (p, id, .unwound)
  | .inline, .outside =>
    let p := (p.spawn id).settle
    match p.ending? id with
    | some false => (p, id, .returned)
    | some true => (p, id, .unwound)
    | none => (p, id, .stuck)

/-- Run something to its end that may wait, as the caller's own. -/
def blockOn {α : Type} (p : Pool σ) (caller : Caller)
    (future : Pool σ → Pool σ × Option α) : Pool σ × Option (Except Failure α) :=
  match mayWait caller "block_on" with
  | .error e => (p, some (.error e))
  | .ok () =>
    let (p, answer) := future p
    (p, answer.map .ok)

/-- Wait for the outcome of a task.  That of a finished task is to be had from anywhere. -/
def resolve (p : Pool σ) (caller : Caller) (id : TaskId) :
    Pool σ × Option (Except Failure Outcome) :=
  match p.outcome? id with
  | some o => (p, some (.ok o))
  | none =>
    match mayWait caller (p.label id) with
    | .error e => (p, some (.error e))
    | .ok () =>
      let p := p.settle
      (p, (p.outcome? id).map .ok)

/-- Wait for a path. -/
def resolvePath (p : Pool σ) (caller : Caller) (ref : PathRef) :
    Pool σ × Option (Except Failure Path) :=
  match ref with
  | .literal path => (p, some (.ok (path.absolute p.here)))
  | .task id =>
    let (p, answer) := p.resolve caller id
    (p, answer.map fun r => r.bind (p.outcomePath id))

/-- Wait until a task is no longer pending. -/
def awaitRunning (p : Pool σ) (id : TaskId) : Pool σ × Option TaskState :=
  let p := if p.state id = .pending then p.settle else p
  (p, if p.state id = .pending then none else some (p.state id))

/-- Take the list of running tasks and run the pool until it rests. -/
def drain (p : Pool σ) : Pool σ :=
  settle { p with running := [] }

/-- Wait, round by round, until the list of running tasks is found empty.  A round ends when all
tasks that it has taken from the list have ended. -/
def waitRounds (p : Pool σ) : Pool σ × Bool :=
  if p.running.isEmpty then (p, true)
  else if p.running.all fun id => (p.drain.ending? id).isSome then waitRounds p.drain
  else (p.drain, false)
termination_by (p.loads, p.running.length)
decreasing_by
  rename_i hne _
  unfold drain
  rcases settle_lighter { p with running := [] } with e | h
  · rw [e]
    have : 0 < p.running.length := by
      cases hr : p.running with
      | nil => simp [hr] at hne
      | cons a l => simp
    exact Prod.Lex.right _ (by simpa using this)
  · exact Prod.Lex.left _ _ h

/-- Wait until no submitted task is running. -/
def waitIdle (p : Pool σ) (caller : Caller) : Pool σ × Option (Except Failure Unit) :=
  match mayWait caller "wait_idle" with
  | .error e => (p, some (.error e))
  | .ok () =>
    let (p, idle) := p.waitRounds
    (p, if idle then some (.ok ()) else none)

/-- What a report says of a task that did not complete. -/
def failureOf? (t : Task σ) : Option TaskFailure :=
  match t.state with
  | .finished (.completed _) => none
  | .finished (.failed _ message) => some ⟨t.spec.label, message⟩
  | _ => some ⟨t.spec.label, "task never finished"⟩

/-- The account of all tasks as they stand. -/
def report (p : Pool σ) : Report :=
  { completed := p.tasks.countP fun t => (failureOf? t).isNone
    failed := p.tasks.filterMap failureOf? }

/-- What the account means under the pool's policy: a strict pool fails with the first failure. -/
def verdict (p : Pool σ) : Except Failure Report :=
  match p.config.policy, p.report.failed with
  | .strict, first :: _ => .error (.taskFailed first.label first.message)
  | _, _ => .ok p.report

/-- Wait until no submitted task is running, and report on all of them. -/
def joinAll (p : Pool σ) (caller : Caller) : Pool σ × Option (Except Failure Report) :=
  match p.waitIdle caller with
  | (p, none) => (p, none)
  | (p, some (.error e)) => (p, some (.error e))
  | (p, some (.ok ())) => (p, some p.verdict)

end Pool

end NativeBuild
