import NativeBuild.Build.Basic
import NativeBuild.Proofs.Shared.OneWaiter
import NativeBuild.Proofs.Shared.Refused

/-!
The calls that block, made from inside the runtime.  What is known already they tell as they do
outside; anything else is refused, and the call leaves the build as it is.
-/

namespace NativeBuild

/-- A call that may block until what it asks for is there, by the type of what it gives. -/
inductive Call : Type → Type 1 where
  | resolve (id : TaskId) : Call Outcome
  | resolvePath (ref : PathRef) : Call Path
  | wait (t : LinkTarget) : Call Path
  | execute (t : LinkTarget) (args : List String) : Call String
  | blockOn {α : Type} (future : Pool Machine → Pool Machine × Option α) : Call α
  | waitIdle : Call Unit
  | joinAll : Call Report

namespace Pool

variable {σ : Type} {p : Pool σ} {r : Except Failure Path}

/-- What a call for a path waits for. -/
def awaits (p : Pool σ) : PathRef → String
  | .literal _ => ""
  | .task id => p.label id

theorem resolve_inside (p : Pool σ) (id : TaskId) :
    p.resolve .inside id = (p, some (p.answerInside id)) := by
  unfold resolve answerInside
  cases p.outcome? id <;> rfl

theorem resolve_of_outcome? {id : TaskId} {o : Outcome} (h : p.outcome? id = some o)
    (caller : Caller) : p.resolve caller id = (p, some (.ok o)) := by
  rw [resolve, h]

theorem resolvePath_of_pathNow? {ref : PathRef} (h : p.pathNow? ref = some r) (caller : Caller) :
    p.resolvePath caller ref = (p, some r) := by
  cases ref with
  | literal path =>
    obtain rfl := Option.some.inj h
    rfl
  | task id =>
    obtain ⟨o, ho, rfl⟩ := Option.map_eq_some_iff.1 h
    rw [resolvePath, resolve_of_outcome? ho]
    rfl

theorem resolvePath_inside (p : Pool σ) (ref : PathRef) : p.resolvePath .inside ref =
    (p, some ((p.pathNow? ref).getD (.error (.wouldBlock (p.awaits ref))))) := by
  cases h : p.pathNow? ref with
  | some r => exact resolvePath_of_pathNow? h .inside
  | none =>
    cases ref with
    | literal path => exact nomatch h
    | task id =>
      have hnone : p.outcome? id = none := Option.map_eq_none_iff.1 h
      rw [resolvePath, resolve_inside, answerInside, hnone]
      rfl

end Pool

/-- What a call tells without waiting for anything: the outcome of a task that has finished, the
path that it or a literal gives, or why there is no artifact to run. -/
def Call.answer? {α : Type} (b : Build) : Call α → Option (Except Failure α)
  | .resolve id => (b.pool.outcome? id).map .ok
  | .resolvePath ref => b.pool.pathNow? ref
  | .wait t => b.pool.pathNow? t.artifact
  | .execute t _ =>
    match b.pool.pathNow? t.artifact with
    | some (.error e) => some (.error e)
    | _ => none
  | .blockOn _ | .waitIdle | .joinAll => none

/-- What a call is said to wait for when it is refused. -/
def Call.awaits {α : Type} (b : Build) : Call α → String
  | .resolve id => b.pool.label id
  | .resolvePath ref => b.pool.awaits ref
  | .wait t => b.pool.awaits t.artifact
  | .execute t _ =>
    match b.pool.pathNow? t.artifact with
    | none => b.pool.awaits t.artifact
    | some _ => "block_on"
  | .blockOn _ => "block_on"
  | .waitIdle | .joinAll => "wait_idle"

namespace Build

/-- Make a call. -/
def call {α : Type} (b : Build) (caller : Caller) : Call α → Build × Option (Except Failure α)
  | .resolve id =>
    let (pool, answer) := b.pool.resolve caller id
    ({ b with pool }, answer)
  | .resolvePath ref => b.resolve caller ref
  | .wait t => b.resolve caller t.artifact
  | .execute t args => b.execute caller t args
  | .blockOn future =>
    let (pool, answer) := b.pool.blockOn caller future
    ({ b with pool }, answer)
  | .waitIdle =>
    let (pool, answer) := b.pool.waitIdle caller
    ({ b with pool }, answer)
  | .joinAll => b.finish caller

theorem resolve_inside (b : Build) (ref : PathRef) : b.resolve .inside ref =
    (b, some ((b.pool.pathNow? ref).getD (.error (.wouldBlock (b.pool.awaits ref))))) := by
  rw [resolve, Pool.resolvePath_inside]

theorem resolve_of_pathNow? {b : Build} {ref : PathRef} {r : Except Failure Path}
    (h : b.pool.pathNow? ref = some r) (caller : Caller) : b.resolve caller ref = (b, some r) := by
  rw [resolve, Pool.resolvePath_of_pathNow? h]

/-- A call from inside the runtime returns at once and leaves the build as it is. -/
theorem call_inside {α : Type} (b : Build) (c : Call α) :
    b.call .inside c = (b, some ((c.answer? b).getD (.error (.wouldBlock (c.awaits b))))) := by
  cases c with
  | resolve id =>
    rw [call, Pool.resolve_inside, Pool.answerInside, Call.answer?, Call.awaits]
    cases b.pool.outcome? id <;> rfl
  | resolvePath ref => exact b.resolve_inside ref
  | wait t => exact b.resolve_inside t.artifact
  | execute t args =>
    rw [call, execute, resolve_inside, Call.answer?, Call.awaits]
    cases b.pool.pathNow? t.artifact with
    | none => rfl
    | some r => cases r <;> rfl
  | blockOn _ | waitIdle | joinAll => rfl

/-- What a call tells without waiting it tells from anywhere. -/
theorem call_of_answer? {α : Type} {b : Build} {c : Call α} {a : Except Failure α}
    (h : c.answer? b = some a) (caller : Caller) : b.call caller c = (b, some a) := by
  cases c with
  | resolve id =>
    obtain ⟨o, ho, rfl⟩ := Option.map_eq_some_iff.1 h
    rw [call, Pool.resolve_of_outcome? ho]
  | resolvePath ref => exact resolve_of_pathNow? h caller
  | wait t => exact resolve_of_pathNow? h caller
  | execute t args =>
    rw [Call.answer?] at h
    split at h
    · next e he =>
      obtain rfl := Option.some.inj h
      rw [call, execute, resolve_of_pathNow? he]
    · exact nomatch h
  | blockOn _ | waitIdle | joinAll => exact nomatch h

end Build

namespace SharedPool

variable {s s' : SharedPool Machine}

/-- A step of a shared pool, or a call that a build which has the pool makes from inside the
runtime. -/
inductive Goes (s : SharedPool Machine) : SharedPool Machine → Prop where
  | step {s' : SharedPool Machine} (h : Step s s') : Goes s s'
  | call {α : Type} (b : Build) (hb : b.pool = s.pool) (c : Call α) :
    Goes s { s with pool := (b.call .inside c).1.pool }

/-- The calls from inside the runtime may be left out of a run. -/
theorem runs_of_goes (h : Relation.ReflTransGen Goes s s') : Runs s s' := by
  induction h with
  | refl => exact .refl
  | tail _ hgoes ih =>
    cases hgoes with
    | step h => exact ih.tail h
    | call b hb c =>
      rw [Build.call_inside, hb]
      exact ih

/-- Calls from inside the runtime leave no trace.  In any build such a call returns at once and
leaves the build as it is, whatever future or command it was given.  It tells what there is to be
told without waiting, which the same call tells from anywhere, and otherwise that it would block.
Where a task or a thread makes such a call and there is nothing to be told, that answer is its next
step and nothing else changes.  So a run can be made without any of these calls: the pool goes
through the same states, the same waits end at the same points, and the same reports are given.  And
where the waits of all threads but one are of this kind, that thread waits for every task whose
submission had returned. -/
theorem refused_calls_traceless {config : PoolConfig} {here : Path} {world : Machine}
    {plans : List (Plan Machine)} {s : SharedPool Machine}
    (h : Relation.ReflTransGen Goes (start config here world plans) s) :
    (∀ (b : Build) (α : Type) (c : Call α),
      b.call .inside c = (b, some ((c.answer? b).getD (.error (.wouldBlock (c.awaits b))))) ∧
      ∀ a caller, c.answer? b = some a → b.call caller c = (b, some a)) ∧
    (∀ party s₁, s.Turned party s₁ → ∀ e s', s.Acts party e s' ↔ e = .quiet ∧ s' = s₁) ∧
    (∃ plans' s', List.Forall₂ Plan.Spares plans plans' ∧
      Spared (start config here world plans) (start config here world plans') s s' ∧
      Reachable config here world plans' s' ∧ s.Like Work.Spares Plan.Spares s') ∧
    ∀ (c : Nat) t u q ids e, (∀ d plan, d ≠ c → plans[d]? = some plan → plan.NeverWaits) →
      s.threads[c]? = some t → ThreadStep s t q u ids e → e.IsComplete s.pool := by
  have hruns := runs_of_goes h
  refine ⟨fun b α c => ⟨b.call_inside c, fun a caller ha => Build.call_of_answer? ha caller⟩,
    fun party s₁ hturned e s' => ⟨hturned.only, ?_⟩, ?_, ?_⟩
  · rintro ⟨rfl, rfl⟩
    exact hturned.acts
  · obtain ⟨plans', s', hplans, hspared⟩ := exists_spared_start hruns
    exact ⟨plans', s', hplans, hspared, Reachable.start.runs hspared.runs_right, hspared.like_end⟩
  · intro c t u q ids e hothers ht hstep
    exact (Reachable.start.runs hruns).complete hothers ht hstep

/-- A thread that submits a task and one that asks for its outcome, and reports; and a thread that
asks for a report from inside the runtime. -/
def askers : List (Plan Machine) :=
  [.submit .outside ⟨"slow", none, []⟩ (fun _ => .done (.ok ())) fun id =>
    .submit .outside ⟨"asks", none, []⟩ (fun _ => .ask id fun _ => .done (.ok ())) fun _ =>
    .joinAll .outside fun _ => .stop,
    .joinAll .inside fun _ => .stop]

/-- The two tasks when they have finished. -/
def askersTasks : List (Task Machine) :=
  [⟨⟨"slow", none, []⟩, fun _ => .done (.ok ()), .finished (.completed none), .ended false, [[]]⟩,
    ⟨⟨"asks", none, []⟩, fun _ => .ask 0 fun _ => .done (.ok ()), .finished (.completed none),
      .ended false, [[]]⟩]

/-- The first thread has read both tasks, and the other one has been refused. -/
def askersRead : SharedPool Machine where
  pool := ⟨⟨1, .pooled, .bestEffort⟩, ⟨['/']⟩, 1, ⟨⟨[], [], [], 0⟩, ⟨['/']⟩, []⟩, askersTasks, []⟩
  threads := [.reading [0, 1] [] 2 askersTasks fun _ => .stop, .free .stop]
  returned := [0, 1]

/-- A build when the workers have the first of the tasks, and a program to be run that it is to
make. -/
def slowBuild : Build where
  layout := ⟨⟨['/']⟩, ⟨[]⟩, ⟨[]⟩, ⟨['/', 'o']⟩, ⟨[]⟩, ⟨[]⟩, ⟨[]⟩, ⟨[]⟩⟩
  toolchain := ⟨⟨['c']⟩, ⟨['c']⟩, .linux, []⟩
  run := fun _ m => (m, .ok "")
  pool := ⟨⟨1, .pooled, .bestEffort⟩, ⟨['/']⟩, 1, ⟨⟨[], [], [], 0⟩, ⟨['/']⟩, []⟩,
    [⟨⟨"slow", none, []⟩, fun _ => .done (.ok ()), .pending, .created, []⟩], [0]⟩
  table := ⟨[]⟩

theorem goes_askersRead : Relation.ReflTransGen Goes
    (start ⟨1, .pooled, .bestEffort⟩ ⟨['/']⟩ ⟨⟨[], [], [], 0⟩, ⟨['/']⟩, []⟩ askers) askersRead := by
  have started : Relation.ReflTransGen Goes
    (start ⟨1, .pooled, .bestEffort⟩ ⟨['/']⟩ ⟨⟨[], [], [], 0⟩, ⟨['/']⟩, []⟩ askers) _ := .refl
  have listed := started.tail (.step (.thread (c := 0) rfl .enlist))
  have spawned := listed.tail (.step (.thread (c := 0) rfl (.spawn (.inl rfl))))
  have submitted := spawned.tail (.step (.thread (c := 0) rfl (.track rfl)))
  have executes := submitted.tail (.call slowBuild rfl (.execute ⟨.executable, ⟨['p']⟩, .task 0⟩ []))
  have listed := executes.tail (.step (.thread (c := 0) rfl .enlist))
  have spawned := listed.tail (.step (.thread (c := 0) rfl (.spawn (.inl rfl))))
  have submitted := spawned.tail (.step (.thread (c := 0) rfl (.track rfl)))
  have refused := submitted.tail (.step (.thread (c := 1) rfl (.refuseJoin rfl)))
  have begun := refused.tail (.step (.task (i := 1) rfl))
  have called := begun.tail (.step (.task (i := 1) rfl))
  have refused := called.tail (.step (.task (i := 1) rfl))
  have finished := refused.tail (.step (.task (i := 1) rfl))
  have waits := finished.tail (.step (.thread (c := 0) rfl (.beginJoin rfl)))
  have taken := waits.tail (.step (.thread (c := 0) rfl (.take (by simp))))
  have begun := taken.tail (.step (.task (i := 0) rfl))
  have called := begun.tail (.step (.task (i := 0) rfl))
  have finished := called.tail (.step (.task (i := 0) rfl))
  have passed := finished.tail (.step (.thread (c := 0) rfl (.pass rfl)))
  have passed := passed.tail (.step (.thread (c := 0) rfl (.pass rfl)))
  have reads := passed.tail (.step (.thread (c := 0) rfl (.read rfl)))
  have looked := reads.tail (.step (.thread (c := 0) rfl (.look Nat.two_pos rfl)))
  exact looked.tail (.step (.thread (c := 0) rfl (.look Nat.one_lt_two rfl)))

/-- The program that the build is to make is not run, and its list of running tasks is not emptied.
The report of the first thread can be had without the refused calls, and it tells of both tasks. -/
theorem refused_calls_traceless_askers :
    slowBuild.call .inside (.execute ⟨.executable, ⟨['p']⟩, .task 0⟩ []) =
      (slowBuild, some (.error (.wouldBlock "slow"))) ∧
    slowBuild.call .inside .joinAll = (slowBuild, some (.error (.wouldBlock "wait_idle"))) ∧
    (∃ plans' s', List.Forall₂ Plan.Spares askers plans' ∧
      Spared (start ⟨1, .pooled, .bestEffort⟩ ⟨['/']⟩ ⟨⟨[], [], [], 0⟩, ⟨['/']⟩, []⟩ askers)
        (start ⟨1, .pooled, .bestEffort⟩ ⟨['/']⟩ ⟨⟨[], [], [], 0⟩, ⟨['/']⟩, []⟩ plans')
        askersRead s' ∧
      s'.pool.verdict = .ok ⟨2, []⟩) ∧
    ∀ k ∈ [0, 1], ∃ task o, askersTasks[k]? = some task ∧ task.outcome? = some o := by
  obtain ⟨calls, -, spares, waits⟩ := refused_calls_traceless goes_askersRead
  obtain ⟨plans', s', hplans, hspared, -, hlike⟩ := spares
  have hverdict : s'.pool.verdict = askersRead.pool.verdict := hlike.pool.verdict_eq
  refine ⟨(calls slowBuild _ _).1, (calls slowBuild _ _).1,
    ⟨plans', s', hplans, hspared, hverdict⟩, fun k hk => ?_⟩
  have others : ∀ d plan, d ≠ 0 → askers[d]? = some plan → plan.NeverWaits := by
    intro d plan hd hplan
    match d with
    | 0 => exact absurd rfl hd
    | 1 =>
      obtain rfl := Option.some.inj hplan
      exact .joinAll fun _ => .stop
    | d + 2 => exact nomatch hplan
  have joins : ThreadStep askersRead
      (.reading [0, 1] [] askersTasks.length askersTasks fun _ => .stop) _ _ _ (.joined [0, 1] [] askersTasks _) := .join
  obtain ⟨task, o, htask, -, ho⟩ := (waits 0 _ _ _ _ _ others rfl joins).2 k hk
  exact ⟨task, o, htask, ho⟩

end SharedPool

end NativeBuild
