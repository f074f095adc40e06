import NativeBuild.Proofs.Pool.Inputs
import NativeBuild.Build.Basic

/-!
Nothing is used before it is there: neither the inputs of a task by its work, nor an artifact by a call
that runs it.  Such a call looks at the task that links the artifact, waits for it if it has to, and then
starts the artifact; the tasks and other threads go on at any time.
-/

namespace NativeBuild

namespace Pool

variable {σ : Type} {p q : Pool σ} {caller : Caller} {k : TaskId}

theorem steps_settle (p : Pool σ) : Relation.ReflTransGen Step p p.settle := by
  fun_induction settle p with
  | case1 p h => exact .refl
  | case2 p q h ih => exact .head (step_of_advance? h) ih

theorem becomes_of_steps (h : Relation.ReflTransGen Step p q) : p.Becomes q := by
  induction h with
  | refl => exact .refl
  | tail _ h ih =>
    obtain ⟨i, hstep⟩ := h
    exact ih.tail (.move (.step hstep))

/-- What a wait for the path of a task comes to.  The path is known; or the wait is refused; or the pool
runs until it rests. -/
theorem resolvePath_cases {answer : Option (Except Failure Path)}
    (h : p.resolvePath caller (.task k) = (q, answer)) :
    (∃ r, p.pathNow? (.task k) = some r ∧ q = p ∧ answer = some r) ∨
    p.pathNow? (.task k) = none ∧
      (caller = .inside ∧ q = p ∧ answer = some (.error (.wouldBlock (p.label k))) ∨
        caller = .outside ∧ q = p.settle ∧ answer = p.settle.pathNow? (.task k)) := by
  unfold resolvePath resolve at h
  cases ho : p.outcome? k with
  | some o =>
    simp only [ho] at h
    cases h
    exact .inl ⟨_, by rw [pathNow?, ho]; rfl, rfl, rfl⟩
  | none =>
    refine .inr ⟨by rw [pathNow?, ho]; rfl, ?_⟩
    cases caller with
    | inside =>
      simp only [ho, mayWait] at h
      cases h
      exact .inl ⟨rfl, rfl, rfl⟩
    | outside =>
      simp only [ho, mayWait] at h
      cases h
      refine .inr ⟨rfl, rfl, ?_⟩
      rw [Option.map_map]
      rfl

end Pool

/-- How far a call is that runs an artifact: it has not looked at the artifact's task; it waits for that
task; it has the artifact's path; or it is over. -/
inductive Visit where
  | begun
  | waiting
  | holding (artifact : Path)
  | over (answer : Except Failure String)

namespace Visit

/-- The call when it has been told what the artifact's path is. -/
def told : Except Failure Path → Visit
  | .ok artifact => .holding artifact
  | .error e => .over (.error e)

/-- The call when its wait for the artifact's path has come to this. -/
def awaited : Option (Except Failure Path) → Visit
  | some r => .told r
  | none => .waiting

/-- The call when it has been answered, or else waits without end. -/
def ended : Option (Except Failure String) → Visit
  | some answer => .over answer
  | none => .waiting

end Visit

/-- A pool and a call that runs an artifact. -/
structure Execution where
  pool : Pool Machine
  visit : Visit

namespace Execution

/-- A step of a call from `caller` that runs the artifact of the task `k` with the arguments `args`, or a
change of the pool. -/
inductive Step (run : Runner) (caller : Caller) (k : TaskId) (args : List String) (x : Execution) :
    Execution → Prop where
  | change {q : Pool Machine} (h : x.pool.Change q) : Step run caller k args x { x with pool := q }
  | look {r : Except Failure Path} (hv : x.visit = .begun)
    (h : x.pool.pathNow? (.task k) = some r) :
    Step run caller k args x { x with visit := .told r }
  | refuse {e : Failure} (hv : x.visit = .begun) (h : x.pool.pathNow? (.task k) = none)
    (he : Pool.mayWait caller (x.pool.label k) = .error e) :
    Step run caller k args x { x with visit := .over (.error e) }
  | wait (hv : x.visit = .begun) (h : x.pool.pathNow? (.task k) = none)
    (he : Pool.mayWait caller (x.pool.label k) = .ok ()) :
    Step run caller k args x { x with visit := .waiting }
  | wake {r : Except Failure Path} (hv : x.visit = .waiting)
    (h : x.pool.pathNow? (.task k) = some r) :
    Step run caller k args x { x with visit := .told r }
  | deny {artifact : Path} {e : Failure} (hv : x.visit = .holding artifact)
    (he : Pool.mayWait caller "block_on" = .error e) :
    Step run caller k args x { x with visit := .over (.error e) }
  | command {artifact : Path} (hv : x.visit = .holding artifact)
    (he : Pool.mayWait caller "block_on" = .ok ()) :
    Step run caller k args x
      ⟨{ x.pool with world := (run ⟨artifact, args⟩ x.pool.world).1 },
        .over (run ⟨artifact, args⟩ x.pool.world).2⟩

/-- A run of steps. -/
def Runs (run : Runner) (caller : Caller) (k : TaskId) (args : List String) :
    Execution → Execution → Prop :=
  Relation.ReflTransGen (Step run caller k args)

variable {run : Runner} {caller : Caller} {k : TaskId} {args : List String} {x y : Execution}
  {p q : Pool Machine} {v : Visit}

theorem Step.becomes (h : Step run caller k args x y) : x.pool.Becomes y.pool := by
  cases h with
  | change h => exact .single h
  | command _ _ => exact .single (.move (.touch (.world _)))
  | look _ _ | refuse _ _ _ | wait _ _ _ | wake _ _ | deny _ _ => exact .refl

theorem Runs.becomes (h : Runs run caller k args x y) : x.pool.Becomes y.pool := by
  induction h with
  | refl => exact .refl
  | tail _ h ih => exact ih.trans h.becomes

theorem runs_of_becomes (h : p.Becomes q) : Runs run caller k args ⟨p, v⟩ ⟨q, v⟩ := by
  induction h with
  | refl => exact .refl
  | tail _ h ih => exact ih.tail (.change h)

/-- Whether the path that a call holds is the one that the artifact's task gives. -/
def Holds (k : TaskId) (x : Execution) : Prop :=
  ∀ artifact, x.visit = .holding artifact → x.pool.Gives (.task k) artifact

theorem holds_told {r : Except Failure Path} (hp : p.Each fun _ t => t.NamesOutput)
    (h : p.pathNow? (.task k) = some r) : Holds k ⟨p, .told r⟩ := by
  intro artifact hv
  cases r with
  | error e => cases hv
  | ok path =>
    cases hv
    exact Pool.gives_of_pathNow? hp h

theorem Holds.step (h : x.Holds k) (hs : x.pool.Each fun _ t => t.Accounted)
    (hp : x.pool.Each fun _ t => t.NamesOutput) (hstep : Step run caller k args x y) : y.Holds k := by
  cases hstep with
  | change hc => exact fun artifact hv => hc.gives hs (h artifact hv)
  | look _ hr | wake _ hr => exact holds_told hp hr
  | refuse _ _ _ | wait _ _ _ | deny _ _ | command _ _ => exact fun artifact hv => nomatch hv

/-- A call holds no path before the artifact's task has given it. -/
theorem Runs.holds {config : PoolConfig} {here : Path} {m : Machine}
    (hp : (Pool.start config here m).Becomes p)
    (h : Runs run caller k args ⟨p, .begun⟩ x) : x.Holds k := by
  induction h with
  | refl => exact fun artifact hv => nomatch hv
  | @tail y z hy hstep ih =>
    have hb : (Pool.start config here m).Becomes y.pool := hp.trans (Runs.becomes hy)
    exact ih.step hb.of_start hb.namesOutput hstep

end Execution

namespace Build

variable {b b' : Build} {caller : Caller} {k : TaskId} {args : List String} {t : LinkTarget}

/-- Waiting for the path that a task gives, as a part of a call that runs its artifact. -/
theorem runs_resolvePath (run : Runner) (args : List String) {p q : Pool Machine}
    {answer : Option (Except Failure Path)} (h : p.resolvePath caller (.task k) = (q, answer)) :
    Execution.Runs run caller k args ⟨p, .begun⟩ ⟨q, .awaited answer⟩ := by
  obtain ⟨r, hr, rfl, rfl⟩ | ⟨hnone, ⟨rfl, rfl, rfl⟩ | ⟨rfl, rfl, rfl⟩⟩ := Pool.resolvePath_cases h
  · exact .single (.look rfl hr)
  · exact .single (.refuse rfl hnone rfl)
  · have waiting : Execution.Runs run .outside k args ⟨p, .begun⟩ ⟨p.settle, .waiting⟩ :=
      .head (.wait rfl hnone rfl) (Execution.runs_of_becomes (Pool.becomes_settle p))
    cases hq : p.settle.pathNow? (.task k) with
    | none => exact waiting
    | some r => exact waiting.tail (.wake rfl hq)

/-- Running an artifact is such a call. -/
theorem runs_execute (b : Build) (caller : Caller) (t : LinkTarget) (args : List String)
    (ht : t.artifact = .task k) :
    Execution.Runs b.run caller k args ⟨b.pool, .begun⟩
      ⟨(b.execute caller t args).1.pool, .ended (b.execute caller t args).2⟩ := by
  cases hr : b.pool.resolvePath caller (.task k) with
  | mk p answer =>
  have resolved := runs_resolvePath b.run args hr
  have hresolve : b.resolve caller t.artifact = ({ b with pool := p }, answer) := by
    rw [resolve, ht, hr]
  cases answer with
  | none =>
    simp only [execute, hresolve]
    exact resolved
  | some r =>
    cases r with
    | error e =>
      simp only [execute, hresolve]
      exact resolved
    | ok artifact =>
      cases hm : Pool.mayWait caller "block_on" with
      | error e =>
        simp only [execute, hresolve, Pool.blockOn, hm]
        exact resolved.tail (.deny rfl hm)
      | ok _ =>
        simp only [execute, hresolve, Pool.blockOn, hm]
        have started := resolved.tail (.command rfl hm)
        cases hanswer : (b.run ⟨artifact, args⟩ p.world).2 with
        | error e => rwa [hanswer] at started
        | ok printed => rwa [hanswer] at started

/-- What running the artifact of the task `k` comes to.  Only steps of tasks come before the artifact is
started, on the machine that they leave, and that at the path which its task has given.  Else nothing is
started: the path is known and the caller may not wait for a command; it is not known and he may not wait
for it; the task gives no path; or the tasks all rest and it has not finished. -/
inductive Executes (b : Build) (caller : Caller) (k : TaskId) (args : List String) :
    Build × Option (Except Failure String) → Prop where
  | ran {q : Pool Machine} {artifact : Path} (hq : Relation.ReflTransGen Pool.Step b.pool q)
    (hg : q.Gives (.task k) artifact) (hc : caller = .outside) :
    Executes b caller k args
      ({ b with pool := { q with world := (b.run ⟨artifact, args⟩ q.world).1 } },
        some (b.run ⟨artifact, args⟩ q.world).2)
  | denied {artifact : Path} (hg : b.pool.Gives (.task k) artifact) (hc : caller = .inside) :
    Executes b caller k args (b, some (.error (.wouldBlock "block_on")))
  | refused (hn : b.pool.pathNow? (.task k) = none) (hc : caller = .inside) :
    Executes b caller k args (b, some (.error (.wouldBlock (b.pool.label k))))
  | failed {q : Pool Machine} {e : Failure} (hq : Relation.ReflTransGen Pool.Step b.pool q)
    (he : q.pathNow? (.task k) = some (.error e)) :
    Executes b caller k args ({ b with pool := q }, some (.error e))
  | stuck {q : Pool Machine} (hq : Relation.ReflTransGen Pool.Step b.pool q)
    (hrest : q.advance? = none) (hn : q.pathNow? (.task k) = none) (hc : caller = .outside) :
    Executes b caller k args ({ b with pool := q }, none)

theorem resolve_eq {ref : PathRef} {q : Pool Machine} {answer : Option (Except Failure Path)}
    (h : b.pool.resolvePath caller ref = (q, answer)) :
    b.resolve caller ref = ({ b with pool := q }, answer) := by
  rw [resolve, h]

/-- What is known of the artifact's path decides how a call that runs the artifact goes on. -/
theorem executes_known {q : Pool Machine} {r : Except Failure Path}
    (hq : Relation.ReflTransGen Pool.Step b.pool q) (hcaller : caller = .inside → q = b.pool)
    (hp : q.Each fun _ t => t.NamesOutput) (hr : q.pathNow? (.task k) = some r)
    (hresolve : b.resolve caller t.artifact = ({ b with pool := q }, some r)) :
    b.Executes caller k args (b.execute caller t args) := by
  cases r with
  | error e =>
    simp only [execute, hresolve]
    exact .failed hq hr
  | ok artifact =>
    have hgives : q.Gives (.task k) artifact := Pool.gives_of_pathNow? hp hr
    cases caller with
    | inside =>
      obtain rfl := hcaller rfl
      simp only [execute, hresolve, Pool.blockOn, Pool.mayWait]
      exact .denied hgives rfl
    | outside =>
      simp only [execute, hresolve, Pool.blockOn, Pool.mayWait]
      have started : b.Executes .outside k args _ := .ran hq hgives rfl
      cases hanswer : (b.run ⟨artifact, args⟩ q.world).2 with
      | error e => rwa [hanswer] at started
      | ok printed => rwa [hanswer] at started

theorem executes {config : PoolConfig} {here : Path} {m : Machine}
    (hb : (Pool.start config here m).Becomes b.pool) (caller : Caller) (args : List String)
    (ht : t.artifact = .task k) : b.Executes caller k args (b.execute caller t args) := by
  cases hr : b.pool.resolvePath caller (.task k) with
  | mk q answer =>
  have hresolve : b.resolve caller t.artifact = ({ b with pool := q }, answer) := by
    rw [ht]
    exact resolve_eq hr
  obtain ⟨r, hknown, rfl, rfl⟩ | ⟨hnone, ⟨rfl, rfl, rfl⟩ | ⟨rfl, rfl, rfl⟩⟩ := Pool.resolvePath_cases hr
  · exact executes_known .refl (fun _ => rfl) hb.namesOutput hknown hresolve
  · simp only [execute, hresolve]
    exact .refused hnone rfl
  · have hq := b.pool.steps_settle
    cases hrest : b.pool.settle.pathNow? (.task k) with
    | none =>
      simp only [execute, hresolve, hrest]
      exact .stuck hq (Pool.advance?_settle _) hrest rfl
    | some r =>
      have hp := Pool.Becomes.namesOutput (hb.trans (Pool.becomes_of_steps hq))
      exact executes_known hq (fun h => nomatch h) hp hrest (hrest ▸ hresolve)

/-- The task that links an artifact has declared the artifact's place as its output. -/
theorem target_artifact {kind : ArtifactKind} {output : Path} {inputs : LinkInputs}
    (h : b.target kind output inputs = (b', .ok t)) :
    ∃ k task, t.artifact = .task k ∧ b'.pool.tasks[k]? = some task ∧
      task.spec.output = some t.output := by
  unfold target at h
  dsimp only at h
  split at h
  · cases h
  · next b₁ _ =>
    obtain ⟨-, task, htask, hspec⟩ := b₁.pool.becomes_submit .outside
      (Linking.spec ⟨b₁.toolchain, b₁.layout.libDir, kind,
        output.resolveAgainst b.pool.here b.layout.root, inputs⟩) (Linking.job b₁.run ⟨b₁.toolchain,
          b₁.layout.libDir, kind, output.resolveAgainst b.pool.here b.layout.root, inputs⟩)
    cases h
    exact ⟨_, task, rfl, htask, by rw [hspec]; rfl⟩

end Build

namespace Pool

variable {config : PoolConfig} {here : Path} {m : Machine} {p : Pool Machine}

/-- A path that was waited for is given when the wait returns, and only tasks have gone on. -/
theorem Becomes.resolved (hp : (Pool.start config here m).Becomes p) {caller : Caller} {ref : PathRef}
    {q : Pool Machine} {path : Path} (h : p.resolvePath caller ref = (q, some (.ok path))) :
    Relation.ReflTransGen Step p q ∧ q.Gives ref path := by
  cases ref with
  | literal l =>
    cases h
    exact ⟨.refl, .literal l⟩
  | task k =>
    obtain ⟨r, hr, rfl, heq⟩ | ⟨-, ⟨-, -, heq⟩ | ⟨-, rfl, heq⟩⟩ := resolvePath_cases h
    · cases heq
      exact ⟨.refl, gives_of_pathNow? hp.namesOutput hr⟩
    · cases heq
    · have hq := p.steps_settle
      have hnames := Becomes.namesOutput (hp.trans (becomes_of_steps hq))
      exact ⟨hq, gives_of_pathNow? hnames heq.symm⟩

/-- Nothing is used before it is finished, whatever the interleaving, the mode and the policy.  The
work of a task is called when each of the task's inputs is given, and with the paths that they give in
their order; a wait for a path returns it when it is given; a call that runs an artifact starts it after
nothing but steps of tasks, and only when the artifact's task has given its path; nor has it a path to
start before then if other threads go on too, and running an artifact is such a call; and the task of an
artifact is the one that links it. -/
theorem Becomes.uses_finished (hp : (Pool.start config here m).Becomes p) :
    (∀ q i, p.Change q → q.calls i = p.calls i ∨
      ∃ t inputs, p.tasks[i]? = some t ∧ q.tasks[i]? = some (t.call inputs) ∧
        List.Forall₂ p.Gives t.spec.inputs inputs) ∧
    (∀ caller ref q path, p.resolvePath caller ref = (q, some (.ok path)) →
      Relation.ReflTransGen Step p q ∧ q.Gives ref path) ∧
    (∀ (b : Build) caller (t : LinkTarget) k args, b.pool = p → t.artifact = .task k →
      b.Executes caller k args (b.execute caller t args)) ∧
    (∀ run caller k args x artifact, Execution.Runs run caller k args ⟨p, .begun⟩ x →
      x.visit = .holding artifact → x.pool.Gives (.task k) artifact) ∧
    (∀ (b : Build) caller (t : LinkTarget) k args, b.pool = p → t.artifact = .task k →
      Execution.Runs b.run caller k args ⟨p, .begun⟩
        ⟨(b.execute caller t args).1.pool, .ended (b.execute caller t args).2⟩) ∧
    ∀ (b b' : Build) kind output inputs (t : LinkTarget), b.pool = p →
      b.target kind output inputs = (b', .ok t) →
      ∃ k task, t.artifact = .task k ∧ b'.pool.tasks[k]? = some task ∧
        task.spec.output = some t.output := by
  refine ⟨fun q i hchange => hp.called hchange i, fun _ _ _ _ => hp.resolved, ?_, ?_, ?_, ?_⟩
  · rintro b caller t k args rfl ht
    exact Build.executes hp caller args ht
  · intro run caller k args x artifact hruns hv
    exact Execution.Runs.holds hp hruns artifact hv
  · rintro b caller t k args rfl ht
    exact Build.runs_execute b caller t args ht
  · intro b b' kind output inputs t _ htarget
    exact Build.target_artifact htarget

/-- A task that has made the file `a`. -/
def madeObject : Task Machine :=
  ⟨⟨"compile", some ⟨['a']⟩, []⟩, fun _ => .done (.ok ()), .finished (.completed (some ⟨['a']⟩)),
    .ended false, [[]]⟩

/-- A task that needs that file and another, before its work is called. -/
def fedLink : Task Machine :=
  ⟨⟨"link", some ⟨['l']⟩, [.task 0, .literal ⟨['b']⟩]⟩, fun _ => .done (.ok ()), .pending,
    .gathering [⟨['/', 'a']⟩, ⟨['/', 'b']⟩] [], []⟩

/-- A machine without files. -/
def bareMachine : Machine :=
  ⟨⟨[], [], [], 0⟩, ⟨['/']⟩, []⟩

/-- A strict pool with the two tasks. -/
def fedPool : Pool Machine :=
  ⟨⟨1, .pooled, .strict⟩, ⟨['/']⟩, 1, bareMachine, [madeObject, fedLink], []⟩

theorem becomes_fedPool :
    (Pool.start ⟨1, .pooled, .strict⟩ ⟨['/']⟩ bareMachine).Becomes fedPool := by
  have listed : (Pool.start ⟨1, .pooled, .strict⟩ ⟨['/']⟩ bareMachine).Becomes _ :=
    .single (.move (.touch (.enlist madeObject.spec madeObject.body)))
  have spawned := listed.tail (.move (.touch (.spawn (i := 0) rfl rfl)))
  have started := spawned.tail (.move (.step (i := 0) rfl))
  have called := started.tail (.move (.step (i := 0) rfl))
  have made := called.tail (.move (.step (i := 0) rfl))
  have listed := made.tail (.move (.touch (.enlist fedLink.spec fedLink.body)))
  have spawned := listed.tail (.move (.touch (.spawn (i := 1) rfl rfl)))
  have started := spawned.tail (.move (.step (i := 1) rfl))
  have found := started.tail (.move (.step (i := 1) rfl))
  exact found.tail (.move (.step (i := 1) rfl))

/-- The work of the second task is called when both paths are given, who waits for the file `a` is told its
path, and who runs it may start it. -/
theorem uses_finished_fedPool : ∃ q, fedPool.Change q ∧
    q.calls 1 = [[⟨['/', 'a']⟩, ⟨['/', 'b']⟩]] ∧
    List.Forall₂ fedPool.Gives fedLink.spec.inputs [⟨['/', 'a']⟩, ⟨['/', 'b']⟩] ∧
    (fedPool.resolvePath .outside (.task 0) = (fedPool, some (.ok ⟨['/', 'a']⟩)) ∧
      fedPool.Gives (.task 0) ⟨['/', 'a']⟩) ∧
    (∀ b : Build, b.pool = fedPool → b.Executes .outside 0 []
      (b.execute .outside ⟨.executable, ⟨['/', 'a']⟩, .task 0⟩ [])) ∧
    ∃ x, Execution.Runs (fun _ m => (m, .ok "")) .outside 0 [] ⟨fedPool, .begun⟩ x ∧
      x.visit = .holding ⟨['/', 'a']⟩ ∧ x.pool.Gives (.task 0) ⟨['/', 'a']⟩ := by
  obtain ⟨called, resolved, executed, held, -, -⟩ := becomes_fedPool.uses_finished
  have step : fedPool.Change _ := .move (.step (i := 1) rfl)
  have told : fedPool.resolvePath .outside (.task 0) = (fedPool, some (.ok ⟨['/', 'a']⟩)) := rfl
  have looked : Execution.Runs (fun _ m => (m, .ok "")) .outside 0 [] ⟨fedPool, .begun⟩ _ :=
    .single (.look rfl rfl)
  refine ⟨_, step, rfl, ?_, ⟨told, (resolved _ _ _ _ told).2⟩,
    fun b hb => executed b .outside _ 0 [] hb rfl, _, looked, rfl,
    held _ .outside 0 [] _ _ looked rfl⟩
  rcases called _ 1 step with h | ⟨t, inputs, ht, hcalled, hgives⟩
  · exact absurd h (by decide)
  · obtain rfl : fedLink = t := Option.some.inj ht
    have hcalls : [[⟨['/', 'a']⟩, ⟨['/', 'b']⟩]] = [inputs] :=
      congrArg Task.calls (Option.some.inj hcalled)
    rwa [List.singleton_inj.1 hcalls]

end Pool

end NativeBuild
