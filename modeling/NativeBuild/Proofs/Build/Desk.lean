import NativeBuild.Build.Basic
import NativeBuild.Proofs.Pool.Steady

/-!
Requests for objects from any number of threads.  A thread that asks for an object holds the table
from its look into it until it has made an entry; the tasks and what other threads do with the pool
go on meanwhile.
-/

namespace NativeBuild

theorem Compilation.plain_job (run : Runner) (c : Compilation) : (c.job run).Plain := by
  have hcommand : (c.command.job run).Plain := .act fun _ => .done _
  unfold Compilation.job
  split
  · exact hcommand
  · refine .act fun made => ?_
    cases made with
    | ok _ => exact hcommand
    | error e => exact .done _

namespace Build

/-- The build with its pool changed. -/
def setPool (b : Build) (q : Pool Machine) : Build :=
  { b with pool := q }

/-- The compilation that a key asks for. -/
def compilation (b : Build) (key : ObjectKey) : Compilation :=
  .of b.toolchain b.layout.objectDir key

/-- The task of a compilation as it is listed. -/
def compileTask (b : Build) (key : ObjectKey) : Task Machine :=
  .fresh (b.compilation key).spec fun _ => (b.compilation key).job b.run

theorem compileTask_spec (b : Build) (key : ObjectKey) :
    (b.compileTask key).spec = (b.compilation key).spec := by
  rw [compileTask, Task.fresh]

-- The unfolding is by hand here, lest the digest in the name of the object be evaluated.
theorem compileTask_body (b : Build) (key : ObjectKey) :
    (b.compileTask key).body = fun _ => (b.compilation key).job b.run := by
  rw [compileTask, Task.fresh]

theorem plain_compileTask (b : Build) (key : ObjectKey) (inputs : List Path) :
    ((b.compileTask key).body inputs).Plain := by
  rw [compileTask_body]
  exact Compilation.plain_job b.run (b.compilation key)

/-- Making a directory changes nothing but the machine. -/
theorem ensureDirectory_eq {b b' : Build} {p : Path} {r : Except Failure Unit}
    (h : b.ensureDirectory p = (b', r)) :
    ∃ m, b' = b.setPool { b.pool with world := m } := by
  unfold ensureDirectory at h
  split at h
  · next m _ =>
    cases h
    exact ⟨m, rfl⟩
  · next m _ _ =>
    cases h
    exact ⟨m, rfl⟩

end Build

/-- How far the request is that holds the table.  It was not found in the table; the object directory
is there; its task is listed; the workers have it; or its submission has returned. -/
inductive Holder where
  | missed (caller : Caller) (key : ObjectKey)
  | prepared (caller : Caller) (key : ObjectKey)
  | listed (caller : Caller) (key : ObjectKey) (id : TaskId)
  | spawned (key : ObjectKey) (id : TaskId)
  | submitted (key : ObjectKey) (id : TaskId)

namespace Holder

/-- The key that a request asks for. -/
def key : Holder → ObjectKey
  | .missed _ key | .prepared _ key | .listed _ key _ | .spawned key _ | .submitted key _ => key

/-- The task that a request has listed, and that the workers do not have yet. -/
def waiting : Holder → List (ObjectKey × TaskId)
  | .listed _ key id => [(key, id)]
  | _ => []

/-- The task that the workers have for a request, and that is not in the table yet. -/
def pending : Holder → List (ObjectKey × TaskId)
  | .spawned key id | .submitted key id => [(key, id)]
  | _ => []

end Holder

/-- A build that many threads ask for objects.  `listed` are the tasks that requests listed, `launched`
those of them that the workers were handed, `stranded` those that requests left behind, and `answers`
what requests were answered, all with their keys and in order.  A request from inside the runtime in
inline mode unwinds before the workers have its task, and gets no answer. -/
structure Desk where
  build : Build
  holder : Option Holder
  listed : List (ObjectKey × TaskId)
  launched : List (ObjectKey × TaskId)
  stranded : List (ObjectKey × TaskId)
  answers : List (ObjectKey × Except Failure PathRef)

namespace Desk

/-- A build without any task that nobody has asked for anything. -/
def start (run : Runner) (m : Machine) (layout : Layout) (toolchain : Toolchain)
    (config : PoolConfig) : Desk :=
  ⟨.start run m layout toolchain config, none, [], [], [], []⟩

/-- The tasks that requests listed and that the workers do not have: those left behind, and that of the
request that holds the table. -/
def idle (d : Desk) : List (ObjectKey × TaskId) :=
  d.stranded ++
    match d.holder with
    | some h => h.waiting
    | none => []

/-- The task that the workers have for the request that holds the table. -/
def pending (d : Desk) : List (ObjectKey × TaskId) :=
  match d.holder with
  | some h => h.pending
  | none => []

/-- A step of a request, of a task, or of a thread that uses the pool.  Only the request that has
listed a task hands it to the workers. -/
inductive Step (d : Desk) : Desk → Prop where
  | hit (source : Path) (flags : List String) {object : PathRef} (hh : d.holder = none)
    (h : d.build.table.lookup? (.of d.build.pool.here source flags) = some object) :
    Step d { d with
      answers := d.answers ++ [(.of d.build.pool.here source flags, .ok object)] }
  | miss (caller : Caller) (source : Path) (flags : List String) (hh : d.holder = none)
    (h : d.build.table.lookup? (.of d.build.pool.here source flags) = none) :
    Step d { d with holder := some (.missed caller (.of d.build.pool.here source flags)) }
  | fail {caller : Caller} {key : ObjectKey} {b : Build} {e : Failure}
    (hh : d.holder = some (.missed caller key))
    (h : d.build.ensureDirectory d.build.layout.objectDir = (b, .error e)) :
    Step d { d with build := b, holder := none, answers := d.answers ++ [(key, .error e)] }
  | prepare {caller : Caller} {key : ObjectKey} {b : Build}
    (hh : d.holder = some (.missed caller key))
    (h : d.build.ensureDirectory d.build.layout.objectDir = (b, .ok ())) :
    Step d { d with build := b, holder := some (.prepared caller key) }
  | enlist {caller : Caller} {key : ObjectKey} (hh : d.holder = some (.prepared caller key)) :
    Step d { d with
      build := d.build.setPool (d.build.pool.enlist (d.build.compileTask key)).1
      holder := some (.listed caller key d.build.pool.tasks.length)
      listed := d.listed ++ [(key, d.build.pool.tasks.length)] }
  | panic {key : ObjectKey} {id : TaskId} (hh : d.holder = some (.listed .inside key id))
    (hm : d.build.pool.config.mode = .inline) :
    Step d { d with holder := none, stranded := d.stranded ++ [(key, id)] }
  | spawn {caller : Caller} {key : ObjectKey} {id : TaskId}
    (hh : d.holder = some (.listed caller key id))
    (h : d.build.pool.config.mode = .pooled ∨ caller = .outside) :
    Step d { d with
      build := d.build.setPool (d.build.pool.spawn id)
      holder := some (.spawned key id)
      launched := d.launched ++ [(key, id)] }
  | track {key : ObjectKey} {id : TaskId} (hh : d.holder = some (.spawned key id))
    (hm : d.build.pool.config.mode = .pooled) :
    Step d { d with
      build := d.build.setPool (d.build.pool.track id), holder := some (.submitted key id) }
  | conclude {key : ObjectKey} {id : TaskId} (hh : d.holder = some (.spawned key id))
    (hm : d.build.pool.config.mode = .inline) (he : d.build.pool.ending? id = some false) :
    Step d { d with holder := some (.submitted key id) }
  | unwind {key : ObjectKey} {id : TaskId} (hh : d.holder = some (.spawned key id))
    (hm : d.build.pool.config.mode = .inline) (he : d.build.pool.ending? id = some true) :
    Step d { d with holder := none }
  | insert {key : ObjectKey} {id : TaskId} (hh : d.holder = some (.submitted key id)) :
    Step d { d with
      build := { d.build with table := d.build.table.insert key (.task id) }
      holder := none
      answers := d.answers ++ [(key, .ok (.task id))] }
  | task {i : TaskId} {q : Pool Machine} (h : d.build.pool.step? i = some q) :
    Step d { d with build := d.build.setPool q }
  | touch {q : Pool Machine} (h : d.build.pool.Touch q)
    (hh : ∀ l ∈ d.idle, q.tasks[l.2]? = d.build.pool.tasks[l.2]?) :
    Step d { d with build := d.build.setPool q }

/-- The states that steps lead to from the start. -/
inductive Reachable (run : Runner) (m : Machine) (layout : Layout) (toolchain : Toolchain)
    (config : PoolConfig) : Desk → Prop where
  | start : Reachable run m layout toolchain config (start run m layout toolchain config)
  | step {d d' : Desk} (hd : Reachable run m layout toolchain config d) (h : Step d d') :
    Reachable run m layout toolchain config d'

/-- A run of steps. -/
def Runs : Desk → Desk → Prop :=
  Relation.ReflTransGen Step

/-! ### A request that no other thread disturbs -/

theorem Runs.trans {d d' d'' : Desk} (h : Runs d d') (h' : Runs d' d'') : Runs d d'' :=
  Relation.ReflTransGen.trans h h'

theorem Runs.step {d d' d'' : Desk} (h : Runs d d') (h' : Step d' d'') : Runs d d'' :=
  Relation.ReflTransGen.tail h h'

theorem Reachable.runs {run : Runner} {m : Machine} {layout : Layout} {toolchain : Toolchain}
    {config : PoolConfig} {d d' : Desk} (h : Reachable run m layout toolchain config d)
    (hr : Runs d d') : Reachable run m layout toolchain config d' := by
  induction hr with
  | refl => exact h
  | tail _ hstep ih => exact ih.step hstep

/-- A pool that runs until it rests makes steps of tasks. -/
theorem runs_settle (d : Desk) (p : Pool Machine) (hp : d.build.pool = p) :
    Runs d { d with build := d.build.setPool p.settle } := by
  fun_induction Pool.settle p generalizing d with
  | case1 p h =>
    subst hp
    exact .refl
  | case2 p q h ih =>
    subst hp
    obtain ⟨i, hstep⟩ := Pool.step_of_advance? h
    exact .head (.task hstep) (ih { d with build := d.build.setPool q } rfl)

/-- A task at plain work comes to its end without unwinding. -/
theorem Runs.work {d d' : Desk} (h : Runs d d') {id : TaskId} {t : Task Machine} {w : Work Machine}
    (ht : d'.build.pool.tasks[id]? = some t) (hs : t.stage = .working w) (hw : w.Plain) :
    ∃ q, Runs d { d' with build := d'.build.setPool q } ∧ q.config = d'.build.pool.config ∧
      q.ending? id = some false := by
  induction hw generalizing d' t with
  | done result =>
    have hended := Pool.getElem?_setTask_self (p := d'.build.pool.release) ht (t.finish result)
    have finished := h.step (.task (Pool.TaskStep.step? ht (.finish hs)))
    exact ⟨_, finished, rfl, Pool.ending?_eq hended rfl⟩
  | act _ ih =>
    have acted := h.step (.task (Pool.TaskStep.step? ht (.act hs)))
    obtain ⟨q, hruns, hconfig, hended⟩ := ih _ acted (Pool.getElem?_setTask_self ht _) rfl
    exact ⟨q, hruns, hconfig, hended⟩

/-- The workers bring a task that needs no other to its end, if there is a permit for it. -/
theorem Runs.launch {d d' : Desk} (h : Runs d d') {id : TaskId} {t : Task Machine}
    (ht : d'.build.pool.tasks[id]? = some t) (hs : t.stage = .created) (hinputs : t.spec.inputs = [])
    (hbody : (t.body []).Plain) (hfree : 0 < d'.build.pool.free) :
    ∃ q, Runs d { d' with build := d'.build.setPool q } ∧ q.config = d'.build.pool.config ∧
      q.ending? id = some false := by
  have gathering := h.step (.task (Pool.TaskStep.step? ht (.start hs)))
  have hgathering := Pool.getElem?_setTask_self ht
    { t with stage := .gathering [] t.spec.inputs }
  have called := gathering.step
    (.task (Pool.TaskStep.step? hgathering (.call (congrArg (Stage.gathering []) hinputs) hfree)))
  obtain ⟨q, hruns, hconfig, hended⟩ :=
    called.work (Pool.getElem?_setTask_self hgathering _) rfl hbody
  exact ⟨q, hruns, hconfig, hended⟩

/-- The workers bring a compilation to its end. -/
theorem Runs.compile {d d' : Desk} (h : Runs d d') {key : ObjectKey} {id : TaskId} {t : Task Machine}
    (ht : d'.build.pool.tasks[id]? = some t) (hl : (d'.build.compileTask key).Later t)
    (hs : t.stage = .created) (hfree : 0 < d'.build.pool.free) :
    ∃ q, Runs d { d' with build := d'.build.setPool q } ∧ q.config = d'.build.pool.config ∧
      q.ending? id = some false := by
  refine h.launch ht hs ?_ ?_ hfree
  · rw [hl.spec, Build.compileTask_spec]
    rfl
  · rw [hl.body]
    exact d'.build.plain_compileTask key []

/-- The submission of the task that a request needs, when it returns. -/
theorem runs_submit {d : Desk} {key : ObjectKey} (hh : d.holder = some (.prepared .outside key))
    {q : Pool Machine} {id : TaskId}
    (h : d.build.pool.submit .outside (d.build.compilation key).spec
      (fun _ => (d.build.compilation key).job d.build.run) = (q, id, .returned)) :
    Runs d { d with
      build := d.build.setPool q
      holder := some (.submitted key id)
      listed := d.listed ++ [(key, id)]
      launched := d.launched ++ [(key, id)] } := by
  have listed : Runs d _ := Relation.ReflTransGen.single (.enlist hh)
  have spawned := listed.step (.spawn rfl (.inr rfl))
  obtain ⟨rfl, ⟨hm, rfl⟩ | ⟨hm, -, rfl, he⟩⟩ := Pool.submit_returned h
  · exact spawned.step (.track rfl ((Pool.spawn_config _ _).symm ▸ hm))
  · have settled := spawned.trans (runs_settle _ _ rfl)
    refine settled.step (.conclude rfl ?_ he)
    show (Pool.settle _).config.mode = .inline
    rw [Pool.settle_config]
    exact (Pool.spawn_config _ _).symm ▸ hm

/-- Whether the submission of the task that a request needs returns.  In pooled mode it always does. -/
def Returns (d : Desk) (source : Path) (flags : List String) : Prop :=
  d.build.pool.config.mode = .inline →
    ∀ b, d.build.ensureDirectory d.build.layout.objectDir = (b, .ok ()) →
      (b.pool.submit .outside
        (d.build.compilation (.of d.build.pool.here source flags)).spec
        fun _ => (d.build.compilation (.of d.build.pool.here source flags)).job d.build.run).2.2 =
          .returned

/-- Whether a request that no other thread disturbs leaves the build that `Build.compile` makes and is
answered what it answers. -/
def Serves (d : Desk) : Prop :=
  ∀ source flags, d.holder = none → d.Returns source flags →
    ∃ d', Runs d d' ∧ d'.holder = none ∧ d'.build = (d.build.compile source flags).1 ∧
      d'.answers =
        d.answers ++ [(.of d.build.pool.here source flags, (d.build.compile source flags).2)]

theorem Returns.submit {d : Desk} {source : Path} {flags : List String} (h : d.Returns source flags)
    {b : Build} (hd : d.build.ensureDirectory d.build.layout.objectDir = (b, .ok ())) :
    ∃ q id, b.pool.submit .outside
      (d.build.compilation (.of d.build.pool.here source flags)).spec
      (fun _ => (d.build.compilation (.of d.build.pool.here source flags)).job d.build.run) =
        (q, id, .returned) := by
  refine ⟨_, _, Prod.ext rfl (Prod.ext rfl ?_)⟩
  cases hm : d.build.pool.config.mode with
  | inline => exact h hm b hd
  | pooled =>
    obtain ⟨m, rfl⟩ := Build.ensureDirectory_eq hd
    have hm' : (d.build.setPool { d.build.pool with world := m }).pool.config.mode = .pooled := hm
    rw [Pool.submit_pooled hm']

theorem serves (d : Desk) : d.Serves := by
  intro source flags hh hreturns
  cases hl : d.build.table.lookup? (.of d.build.pool.here source flags) with
  | some object =>
    have hcompile : d.build.compile source flags = (d.build, .ok object) := by
      simp only [Build.compile, hl]
    rw [hcompile]
    have hit : Runs d _ := Relation.ReflTransGen.single (.hit source flags hh hl)
    exact ⟨_, hit, hh, rfl, rfl⟩
  | none =>
    have missed : Runs d _ := Relation.ReflTransGen.single (.miss .outside source flags hh hl)
    cases hd : d.build.ensureDirectory d.build.layout.objectDir with
    | mk b made =>
      cases made with
      | error e =>
        have hcompile : d.build.compile source flags = (b, .error e) := by
          simp only [Build.compile, hl, hd]
        rw [hcompile]
        exact ⟨_, missed.step (.fail rfl hd), rfl, rfl, rfl⟩
      | ok _ =>
        obtain ⟨q, id, hsubmit⟩ := hreturns.submit hd
        obtain ⟨m, rfl⟩ := Build.ensureDirectory_eq hd
        have hcompile : d.build.compile source flags =
            ({ d.build.setPool q with
              table := d.build.table.insert (.of d.build.pool.here source flags) (.task id) },
              .ok (.task id)) := by
          have hsubmit := hsubmit
          simp only [Build.compilation, Build.setPool] at hsubmit
          simp only [Build.compile, hl, hd, Build.submit, Build.setPool, hsubmit]
        rw [hcompile]
        have prepared := missed.step (.prepare rfl hd)
        have submitted := prepared.trans (runs_submit rfl hsubmit)
        exact ⟨_, submitted.step (.insert rfl), rfl, rfl, rfl⟩

end Desk

end NativeBuild
