import NativeBuild.Proofs.Pool.Moves

/-!
A pool that several threads share.  Each thread makes its calls one after another, and each call is
a chain of atomic steps, between which other threads and the tasks go on.
-/

namespace NativeBuild

/-- What a thread does with a pool. -/
inductive Plan (σ : Type) where
  | stop
  | act (effect : σ → σ) (next : Plan σ)
  | submit (caller : Caller) (spec : TaskSpec) (body : List Path → Work σ) (next : TaskId → Plan σ)
  | waitIdle (caller : Caller) (next : Except Failure Unit → Plan σ)
  | joinAll (caller : Caller) (next : Except Failure Report → Plan σ)

/-- Why a thread waits until no task is running: for that alone, or to report on all tasks. -/
inductive Aim (σ : Type) where
  | idle (next : Except Failure Unit → Plan σ)
  | report (next : Except Failure Report → Plan σ)

/-- How far a thread is: between two calls; submitting a task, which is listed, or which the workers
have; waiting for the tasks in `batch`, which it has taken from the list of running tasks; or
reading the tasks for a report, of which it has `seen` the first ones.  `due` are the tasks that had
been submitted when the call began, and `late` those of them that had not finished when it ceased to
wait and that other threads were waiting for. -/
inductive Thread (σ : Type) where
  | free (plan : Plan σ)
  | listed (caller : Caller) (id : TaskId) (next : TaskId → Plan σ)
  | spawned (id : TaskId) (next : TaskId → Plan σ)
  | waiting (due batch : List TaskId) (aim : Aim σ)
  | reading (due late : List TaskId) (count : Nat) (seen : List (Task σ))
    (next : Except Failure Report → Plan σ)

/-- The tasks that a thread waits for. -/
def Thread.batch {σ : Type} : Thread σ → List TaskId
  | .waiting _ batch _ => batch
  | _ => []

/-- A pool, the threads that share it, and the tasks whose submission has returned. -/
structure SharedPool (σ : Type) where
  pool : Pool σ
  threads : List (Thread σ)
  returned : List TaskId

/-- What a step of a thread shows: that the wait for all tasks returns, that a report does, or
nothing. -/
inductive Event (σ : Type) where
  | quiet
  | idled (due late : List TaskId)
  | joined (due late : List TaskId) (seen : List (Task σ)) (answer : Except Failure Report)

namespace SharedPool

variable {σ : Type}

/-- Threads with a pool without tasks. -/
def start (config : PoolConfig) (here : Path) (world : σ) (plans : List (Plan σ)) : SharedPool σ :=
  ⟨Pool.start config here world, plans.map .free, []⟩

/-- The tasks among `due` that have not finished and that some thread waits for. -/
def late (s : SharedPool σ) (due : List TaskId) : List TaskId :=
  due.filter fun k => (s.pool.outcome? k).isNone && s.threads.any fun t => t.batch.contains k

/-- The task whose submission returns when the task `i` makes its step. -/
def returning (p : Pool σ) (i : TaskId) : List TaskId :=
  match p.tasks[i]? with
  | some t =>
    match t.stage with
    | .tracking other _ => [other]
    | _ => []
  | none => []

/-- One step of a thread: what it makes of the pool, where it is then, the task whose submission
returns, and what shows. -/
inductive ThreadStep (s : SharedPool σ) :
    Thread σ → Pool σ → Thread σ → List TaskId → Event σ → Prop where
  | act {effect : σ → σ} {next : Plan σ} :
    ThreadStep s (.free (.act effect next)) { s.pool with world := effect s.pool.world }
      (.free next) [] .quiet
  | enlist {caller : Caller} {spec : TaskSpec} {body : List Path → Work σ}
    {next : TaskId → Plan σ} :
    ThreadStep s (.free (.submit caller spec body next)) (s.pool.enlist (Task.fresh spec body)).1
      (.listed caller s.pool.tasks.length next) [] .quiet
  | panic {id : TaskId} {next : TaskId → Plan σ} (hm : s.pool.config.mode = .inline) :
    ThreadStep s (.listed .inside id next) s.pool (.free .stop) [] .quiet
  | spawn {caller : Caller} {id : TaskId} {next : TaskId → Plan σ}
    (h : s.pool.config.mode = .pooled ∨ caller = .outside) :
    ThreadStep s (.listed caller id next) (s.pool.spawn id) (.spawned id next) [] .quiet
  | track {id : TaskId} {next : TaskId → Plan σ} (hm : s.pool.config.mode = .pooled) :
    ThreadStep s (.spawned id next) (s.pool.track id) (.free (next id)) [id] .quiet
  | conclude {id : TaskId} {next : TaskId → Plan σ} (hm : s.pool.config.mode = .inline)
    (he : s.pool.ending? id = some false) :
    ThreadStep s (.spawned id next) s.pool (.free (next id)) [id] .quiet
  | unwind {id : TaskId} {next : TaskId → Plan σ} (hm : s.pool.config.mode = .inline)
    (he : s.pool.ending? id = some true) :
    ThreadStep s (.spawned id next) s.pool (.free .stop) [] .quiet
  | refuseIdle {caller : Caller} {next : Except Failure Unit → Plan σ} {e : Failure}
    (h : Pool.mayWait caller "wait_idle" = .error e) :
    ThreadStep s (.free (.waitIdle caller next)) s.pool (.free (next (.error e))) [] .quiet
  | refuseJoin {caller : Caller} {next : Except Failure Report → Plan σ} {e : Failure}
    (h : Pool.mayWait caller "wait_idle" = .error e) :
    ThreadStep s (.free (.joinAll caller next)) s.pool (.free (next (.error e))) [] .quiet
  | beginIdle {caller : Caller} {next : Except Failure Unit → Plan σ}
    (h : Pool.mayWait caller "wait_idle" = .ok ()) :
    ThreadStep s (.free (.waitIdle caller next)) s.pool (.waiting s.returned [] (.idle next)) []
      .quiet
  | beginJoin {caller : Caller} {next : Except Failure Report → Plan σ}
    (h : Pool.mayWait caller "wait_idle" = .ok ()) :
    ThreadStep s (.free (.joinAll caller next)) s.pool (.waiting s.returned [] (.report next)) []
      .quiet
  | pass {due rest : List TaskId} {id : TaskId} {aim : Aim σ}
    (he : (s.pool.ending? id).isSome = true) :
    ThreadStep s (.waiting due (id :: rest) aim) s.pool (.waiting due rest aim) [] .quiet
  | take {due : List TaskId} {aim : Aim σ} (hr : s.pool.running ≠ []) :
    ThreadStep s (.waiting due [] aim) { s.pool with running := [] }
      (.waiting due s.pool.running aim) [] .quiet
  | idle {due : List TaskId} {next : Except Failure Unit → Plan σ} (hr : s.pool.running = []) :
    ThreadStep s (.waiting due [] (.idle next)) s.pool (.free (next (.ok ()))) []
      (.idled due (s.late due))
  | read {due : List TaskId} {next : Except Failure Report → Plan σ} (hr : s.pool.running = []) :
    ThreadStep s (.waiting due [] (.report next)) s.pool
      (.reading due (s.late due) s.pool.tasks.length [] next) [] .quiet
  | look {due late : List TaskId} {count : Nat} {seen : List (Task σ)} {t : Task σ}
    {next : Except Failure Report → Plan σ} (hlt : seen.length < count)
    (ht : s.pool.tasks[seen.length]? = some t) :
    ThreadStep s (.reading due late count seen next) s.pool
      (.reading due late count (seen ++ [t]) next) [] .quiet
  | join {due late : List TaskId} {seen : List (Task σ)} {next : Except Failure Report → Plan σ} :
    ThreadStep s (.reading due late seen.length seen next) s.pool
      (.free (next { s.pool with tasks := seen }.verdict)) []
      (.joined due late seen { s.pool with tasks := seen }.verdict)

/-- A shared pool moves by a step of a task or of a thread. -/
inductive Step (s : SharedPool σ) : SharedPool σ → Prop where
  | task {i : TaskId} {q : Pool σ} (h : s.pool.step? i = some q) :
    Step s ⟨q, s.threads, s.returned ++ returning s.pool i⟩
  | thread {c : Nat} {t u : Thread σ} {q : Pool σ} {ids : List TaskId} {e : Event σ}
    (ht : s.threads[c]? = some t) (h : ThreadStep s t q u ids e) :
    Step s ⟨q, s.threads.set c u, s.returned ++ ids⟩

/-- The shared pools that steps lead to from the start. -/
inductive Reachable (config : PoolConfig) (here : Path) (world : σ) (plans : List (Plan σ)) :
    SharedPool σ → Prop where
  | start : Reachable config here world plans (start config here world plans)
  | step {s s' : SharedPool σ} (hs : Reachable config here world plans s) (h : Step s s') :
    Reachable config here world plans s'

end SharedPool

end NativeBuild
