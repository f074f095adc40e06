import NativeBuild.Pool.Task

/-!
The pool: the tasks in the order of their submission, the permits, and the world that the tasks act
on.  A pool moves in atomic steps of one task each, and any task that can move may be the next.
-/

namespace NativeBuild

/-- How a pool is to run. -/
structure PoolConfig where
  parallelism : Nat
  mode : Mode
  policy : Policy
  deriving DecidableEq

/-- A pool of tasks.  `free` is the number of permits that no task holds, `running` the tasks that
the next wait has to wait for, and `here` the directory that paths are made absolute in. -/
structure Pool (σ : Type) where
  config : PoolConfig
  here : Path
  free : Nat
  world : σ
  tasks : List (Task σ)
  running : List TaskId

/-- Where a call comes from: from outside, where waiting is possible, or from inside the runtime
that runs the tasks, where it is refused. -/
inductive Caller where
  | outside
  | inside
  deriving DecidableEq

namespace PoolConfig

/-- The greatest number of tasks at work: as configured, but at least one. -/
def permits (c : PoolConfig) : Nat :=
  max 1 c.parallelism

end PoolConfig

/-- The number of permits that a semaphore has room for, where it counts them in a word of 64 bits and
needs three of these for other things. -/
def semaphoreLimit : Nat :=
  0xffffffffffffffff / 8

namespace Pool

variable {σ : Type}

/-- A pool without tasks. -/
def start (config : PoolConfig) (here : Path) (world : σ) : Pool σ :=
  ⟨config, here, config.permits, world, [], []⟩

/-- Set up a pool.  Its permits are those of a semaphore that holds at most `limit`; asking one for more
panics. -/
def start? (limit : Nat) (config : PoolConfig) (here : Path) (world : σ) : Option (Pool σ) :=
  if config.permits ≤ limit then some (start config here world) else none

/-- The state of a task; a task that is not there is pending. -/
def state (p : Pool σ) (id : TaskId) : TaskState :=
  match p.tasks[id]? with
  | some t => t.state
  | none => .pending

/-- The outcome of a task, if it has finished. -/
def outcome? (p : Pool σ) (id : TaskId) : Option Outcome :=
  (p.state id).outcome?

/-- The label of a task. -/
def label (p : Pool σ) (id : TaskId) : String :=
  match p.tasks[id]? with
  | some t => t.spec.label
  | none => ""

/-- Whether a path is known. -/
def isReady (p : Pool σ) : PathRef → Bool
  | .literal _ => true
  | .task id => (p.outcome? id).isSome

/-- The path that a task's outcome gives. -/
def outcomePath (p : Pool σ) (id : TaskId) (o : Outcome) : Except Failure Path :=
  o.resolve p.here p.config.policy (p.label id)

/-- The path that is referred to, as soon as it is known. -/
def pathNow? (p : Pool σ) : PathRef → Option (Except Failure Path)
  | .literal path => some (.ok (path.absolute p.here))
  | .task id => (p.outcome? id).map (p.outcomePath id)

/-- What a call for a task's outcome is told inside the runtime: the outcome, or that it may not
wait. -/
def answerInside (p : Pool σ) (id : TaskId) : Except Failure Outcome :=
  match p.outcome? id with
  | some o => .ok o
  | none => .error (.wouldBlock (p.label id))

/-- Put a task at its place. -/
def setTask (p : Pool σ) (id : TaskId) (t : Task σ) : Pool σ :=
  { p with tasks := p.tasks.set id t }

/-- List a task: it is submitted, and no worker has it. -/
def enlist (p : Pool σ) (t : Task σ) : Pool σ × TaskId :=
  ({ p with tasks := p.tasks ++ [t] }, p.tasks.length)

/-- Hand a listed task to the workers. -/
def spawn (p : Pool σ) (id : TaskId) : Pool σ :=
  match p.tasks[id]? with
  | some t => p.setTask id { t with stage := .created }
  | none => p

/-- Record that a task is running, so that the next wait waits for it. -/
def track (p : Pool σ) (id : TaskId) : Pool σ :=
  { p with running := p.running ++ [id] }

/-- Give back a permit. -/
def release (p : Pool σ) : Pool σ :=
  { p with free := p.free + 1 }

/-- One step of the work `w` of the task `t`, which is task `id`. -/
def workStep? (p : Pool σ) (id : TaskId) (t : Task σ) : Work σ → Option (Pool σ)
  | .done result => some (p.release.setTask id (t.finish result))
  | .unwind => some (p.release.setTask id (t.close true))
  | .act effect next =>
    let (world, result) := effect p.world
    some ({ p with world }.setTask id { t with stage := .working (next result) })
  | .await ready next =>
    if ready p.world then some (p.setTask id { t with stage := .working next }) else none
  | .ask other next =>
    some (p.setTask id { t with stage := .working (next (p.answerInside other)) })
  | .submit spec body next =>
    match p.config.mode with
    | .pooled =>
      let new := { Task.fresh spec body with stage := .created }
      let stage := .tracking p.tasks.length (next p.tasks.length)
      some ((p.setTask id { t with stage }).enlist new).1
    | .inline =>
      some ((p.release.setTask id (t.close true)).enlist (Task.fresh spec body)).1

/-- One step of a task, if it can make one. -/
def step? (p : Pool σ) (id : TaskId) : Option (Pool σ) :=
  match p.tasks[id]? with
  | none => none
  | some t =>
    match t.stage with
    | .listed => none
    | .created => some (p.setTask id { t with stage := .gathering [] t.spec.inputs })
    | .gathering found (ref :: rest) =>
      match p.pathNow? ref with
      | none => none
      | some (.ok path) =>
        some (p.setTask id { t with stage := .gathering (found ++ [path]) rest })
      | some (.error e) => some (p.setTask id (t.refuse e))
    | .gathering found [] =>
      if p.free = 0 then none else some ({ p with free := p.free - 1 }.setTask id (t.call found))
    | .working w => p.workStep? id t w
    | .tracking other w => some ((p.setTask id { t with stage := .working w }).track other)
    | .ended _ => none

/-- A pool moves by a step of any task that can make one. -/
def Step (p q : Pool σ) : Prop :=
  ∃ id, p.step? id = some q

end Pool

end NativeBuild
