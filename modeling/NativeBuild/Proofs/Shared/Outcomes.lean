import NativeBuild.Proofs.Pool.Follow
import NativeBuild.Proofs.Shared.Single

/-!
Which tasks leave an outcome behind.  A worker that has begun with a task leaves one, however the task
ends; a task that is given up before that leaves none, and a report says that it never finished.
-/

namespace NativeBuild

namespace Task

variable {σ : Type} {t : Task σ}

/-- A task that has ended has no outcome only if it was lost. -/
theorem Accounted.outcome?_eq_none_iff (h : t.Accounted) (he : t.isEnded = true) :
    t.outcome? = none ↔ t.Lost := by
  refine ⟨fun hnone => ?_, Lost.outcome?⟩
  rcases h with h | h
  · have hsome := h.outcome?_isSome
    rw [hnone, he] at hsome
    exact nomatch hsome
  · exact h

/-- A task that is only listed has no outcome. -/
theorem Accounted.outcome?_of_listed (h : t.Accounted) (hs : t.stage = .listed) :
    t.outcome? = none := by
  rcases h with h | h
  · simp only [Sound, hs] at h
    rw [outcome?, h.1]
    rfl
  · exact h.outcome?

theorem failureOf?_of_outcome?_eq_none (h : t.outcome? = none) :
    Pool.failureOf? t = some ⟨t.spec.label, "task never finished"⟩ := by
  unfold outcome? TaskState.outcome? at h
  unfold Pool.failureOf?
  split at h
  · exact nomatch h
  · next hne => cases hs : t.state with
    | finished o => exact absurd hs (hne o)
    | pending | running => rfl

end Task

namespace Pool

variable {σ : Type} {p q : Pool σ}

/-- A task at rest has no outcome exactly if no worker had begun with it. -/
theorem AtRest.outcome?_eq_none_iff (h : p.AtRest) (hacc : p.Each fun _ t => t.Accounted) {i : TaskId}
    {t : Task σ} (ht : p.tasks[i]? = some t) : t.outcome? = none ↔ t.Unbegun := by
  rcases h i t ht with he | ⟨hs, _⟩
  · rw [(hacc i t ht).outcome?_eq_none_iff he]
    refine ⟨.inl, fun hu => hu.resolve_right fun hs => ?_⟩
    simp [Task.isEnded, hs] at he
  · exact ⟨fun _ => .inr hs, fun _ => (hacc i t ht).outcome?_of_listed hs⟩

/-- What giving up a task leaves of it: the outcome of a guard, or none if there was no guard yet. -/
theorem outcome?_drop (hacc : p.Each fun _ t => t.Accounted) {i : TaskId} {t : Task σ}
    (ht : p.tasks[i]? = some t) (hs : t.isEnded = false) :
    (p.drop i t).outcome? i = if t.isGuarded then some t.abandonment else none := by
  have hi := (List.getElem?_eq_some_iff.1 ht).1
  have hdrop : (p.drop i t).tasks[i]? = some t.drop := by
    rw [drop_tasks]
    exact List.getElem?_set_self hi
  rw [outcome?_eq hdrop]
  have hsound : t.Sound := by
    rcases hacc i t ht with h | h
    · exact h
    · rw [h.isEnded] at hs
      exact nomatch hs
  rcases Task.drop_cases hsound hs with ⟨hg, _, _, hstate⟩ | ⟨hg, hlost⟩
  · rw [hg, Task.outcome?, hstate]
    rfl
  · rw [hg, hlost.outcome?]
    rfl

/-- A task that ends by a step of its own leaves an outcome. -/
theorem outcome?_of_step? (hacc : p.Each fun _ t => t.Accounted) {i : TaskId}
    (h : p.step? i = some q) {u : Task σ} (hu : q.tasks[i]? = some u) (he : u.isEnded = true) :
    u.outcome?.isSome = true := by
  obtain ⟨t, ht, hkind⟩ := taskStep_of_step? h
  have hi := (List.getElem?_eq_some_iff.1 ht).1
  obtain ⟨v, hnext, htasks⟩ := hkind.tasks_eq
  have hv : q.tasks[i]? = some v := by
    have hset : (p.tasks.set i v)[i]? = some v := List.getElem?_set_self hi
    rcases htasks with htasks | ⟨new, _, _, _, htasks⟩
    · rw [htasks, hset]
    · rw [htasks, List.getElem?_append_left (by simpa using hi), hset]
  obtain rfl := Option.some.inj (hu.symm.trans hv)
  rw [(hnext.sound (hnext.sound_of_accounted (hacc i t ht))).outcome?_isSome, he]

end Pool

namespace SharedPool

variable {σ : Type} {s : SharedPool σ} {config : PoolConfig} {here : Path} {world : σ}

/-- Which tasks of a single thread leave an outcome.  A task that comes to its end or panics does, and
one that is given up does exactly if a worker had begun with it; what is lost stays lost.  A report is
on all tasks as they are, and nothing can go on any more; it says that a task never finished exactly
if the task was given up or left behind before a worker had begun with it, and in pooled mode no task
is left behind. -/
theorem Single.outcomes (h : Single config here world s) :
    (∀ (i : TaskId) q u, s.pool.step? i = some q → q.tasks[i]? = some u → u.isEnded = true →
      u.outcome?.isSome = true) ∧
    (∀ (i : TaskId) t, s.pool.tasks[i]? = some t → t.isEnded = false →
      (s.pool.drop i t).outcome? i = if t.isGuarded then
        some (.failed t.spec.output "task abandoned before finishing") else none) ∧
    (∀ (i : TaskId) t q, s.pool.tasks[i]? = some t → t.isEnded = true → s.pool.Becomes q →
      q.tasks[i]? = some t ∧ (t.outcome? = none ↔ t.Lost)) ∧
    ∀ (c : Nat) t q u ids due late seen answer, s.threads[c]? = some t →
      ThreadStep s t q u ids (.joined due late seen answer) →
      seen = s.pool.tasks ∧ answer = s.pool.verdict ∧
        ∀ (i : TaskId) task, s.pool.tasks[i]? = some task →
          (task.Unbegun ∧ Pool.failureOf? task = some ⟨task.spec.label, "task never finished"⟩ ∨
            ¬ task.Unbegun ∧ ∃ f, task.fate? = some f ∧ Pool.failureOf? task = f.failure?) ∧
          (config.mode = .pooled → task.Unbegun → task.Lost) := by
  have hacc : s.pool.Each fun _ t => t.Accounted := h.becomes.accounted (.start config here world)
  refine ⟨fun i q u hstep hu he => Pool.outcome?_of_step? hacc hstep hu he,
    fun i t ht hs => Pool.outcome?_drop hacc ht hs,
    fun i t q ht he hq => ⟨hq.grows.ended ht he, (hacc i t ht).outcome?_eq_none_iff he⟩, ?_⟩
  intro c t q u ids due late seen answer ht hstep
  obtain ⟨t', hthreads, htends⟩ := h.tends
  obtain rfl : t = t' := by
    have hmem := List.mem_of_getElem? ht
    rw [hthreads] at hmem
    exact List.mem_singleton.1 hmem
  obtain ⟨hrest, hseen, hanswer⟩ := htends.joined hstep
  refine ⟨hseen, hanswer, fun i task htask => ⟨?_, fun hm hu => hu.resolve_right fun hs => ?_⟩⟩
  · have hiff := hrest.outcome?_eq_none_iff hacc htask
    cases ho : task.outcome? with
    | none => exact .inl ⟨hiff.1 ho, Task.failureOf?_of_outcome?_eq_none ho⟩
    | some o =>
      have hfate : task.fate? = some ⟨task.spec.label, o, task.calls⟩ := by rw [Task.fate?, ho]; rfl
      refine .inr ⟨fun hu => ?_, _, hfate, Pool.failureOf?_eq hfate⟩
      rw [hiff.2 hu] at ho
      cases ho
  · -- Only inline mode leaves a task behind.
    rcases hrest i task htask with he | ⟨_, hinline⟩
    · simp [Task.isEnded, hs] at he
    · rw [h.becomes.config_eq] at hinline
      cases hm.symm.trans hinline

/-- Work that submits a further task from inside itself. -/
def nesting : List Path → Work Unit :=
  fun _ => .submit ⟨"inner", none, []⟩ (fun _ => .done (.ok ())) fun _ => .done (.ok ())

/-- The task of that work, which the panic of the inner submission has ended. -/
def outer : Task Unit :=
  ⟨⟨"outer", none, []⟩, nesting, .finished (.failed none "task abandoned before finishing"),
    .ended true, [[]]⟩

/-- The task that the panic has left behind. -/
def inner : Task Unit :=
  Task.fresh ⟨"inner", none, []⟩ fun _ => .done (.ok ())

/-- An inline pool after the submission of the outer task. -/
def nested : Pool Unit :=
  ⟨⟨2, .inline, .bestEffort⟩, ⟨['/']⟩, 2, (), [outer, inner], []⟩

theorem submit_nested :
    (Pool.start ⟨2, .inline, .bestEffort⟩ ⟨['/']⟩ ()).submit .outside ⟨"outer", none, []⟩ nesting =
      (nested, 0, .unwound) :=
  Pool.submit_eq_of_settle rfl (Pool.settle_eq_of_advances (n := 3) rfl rfl)

/-- The thread catches the panic and asks for a report, for which it has seen both tasks. -/
theorem single_nested : Single ⟨2, .inline, .bestEffort⟩ ⟨['/']⟩ ()
    (alone nested (.reading [] [] 2 [outer, inner] fun _ => .stop) []) := by
  have started : Single ⟨2, .inline, .bestEffort⟩ ⟨['/']⟩ () _ :=
    .start (.submit .outside ⟨"outer", none, []⟩ nesting fun _ => .stop)
  have listed := started.step (.thread (c := 0) rfl .enlist)
  have spawned := listed.step (.thread (c := 0) rfl (.spawn (.inr rfl)))
  have begun := spawned.step (.task (i := 0) rfl)
  have called := begun.step (.task (i := 0) rfl)
  have panicked := called.step (.task (i := 0) rfl)
  have unwound := panicked.step (.thread (c := 0) rfl (.unwind rfl rfl))
  have caught := Single.resume (p := nested) unwound (.joinAll .outside fun _ => .stop)
  have waits := caught.step (.thread (c := 0) rfl (.beginJoin rfl))
  have reads := waits.step (.thread (c := 0) rfl (.read rfl))
  have looked := reads.step (.thread (c := 0) rfl (.look Nat.zero_lt_two rfl))
  exact looked.step (.thread (c := 0) rfl (.look Nat.one_lt_two rfl))

theorem outcomes_nested :
    [outer, inner] = nested.tasks ∧
      nested.verdict = .ok ⟨0, [⟨"outer", "task abandoned before finishing"⟩,
        ⟨"inner", "task never finished"⟩]⟩ ∧
      ∀ (i : TaskId) task, nested.tasks[i]? = some task →
        (task.Unbegun ∧ Pool.failureOf? task = some ⟨task.spec.label, "task never finished"⟩ ∨
          ¬ task.Unbegun ∧ ∃ f, task.fate? = some f ∧ Pool.failureOf? task = f.failure?) := by
  obtain ⟨_, _, _, hjoined⟩ := single_nested.outcomes
  have hjoin : ThreadStep (alone nested (.reading [] [] 2 [outer, inner] fun _ => .stop) [])
      (.reading [] [] [outer, inner].length [outer, inner] fun _ => .stop) nested (.free .stop) []
      (.joined [] [] [outer, inner] nested.verdict) := .join
  obtain ⟨hseen, _, htasks⟩ := hjoined 0 _ _ _ _ _ _ _ _ rfl hjoin
  exact ⟨hseen, rfl, fun i task ht => (htasks i task ht).1⟩

/-- A task whose future goes before a worker has begun with it leaves no outcome.  In inline mode, a
panic leaves the submission of a task whose work submits another one, and a report after that says
that the other one never finished.  In pooled mode, a task that is given up before a worker takes it
up stays pending. -/
theorem exists_never_finished :
    (Pool.start ⟨2, .inline, .bestEffort⟩ ⟨['/']⟩ ()).submit .outside ⟨"outer", none, []⟩ nesting =
        (nested, 0, .unwound) ∧
      (nested.joinAll .outside).2 = some (.ok ⟨0, [⟨"outer", "task abandoned before finishing"⟩,
        ⟨"inner", "task never finished"⟩]⟩) ∧
      Single ⟨2, .inline, .bestEffort⟩ ⟨['/']⟩ ()
        (alone nested (.reading [] [] 2 [outer, inner] fun _ => .stop) []) ∧
      ∃ s : SharedPool Unit, Single ⟨2, .pooled, .bestEffort⟩ ⟨['/']⟩ () s ∧
        s.pool.ending? 0 = some true ∧ s.pool.state 0 = .pending := by
  refine ⟨submit_nested, ?_, single_nested, ?_⟩
  · have hwait : nested.waitRounds = (nested, true) := by rw [Pool.waitRounds]; rfl
    simp only [Pool.joinAll, Pool.waitIdle, Pool.mayWait, hwait]
    rfl
  · have started : Single ⟨2, .pooled, .bestEffort⟩ ⟨['/']⟩ () _ :=
      .start (.submit .outside ⟨"inner", none, []⟩ (fun _ => .done (.ok ())) fun _ => .stop)
    have listed := started.step (.thread (c := 0) rfl .enlist)
    have spawned := listed.step (.thread (c := 0) rfl (.spawn (.inl rfl)))
    have dropped := spawned.drop (i := 0) rfl rfl rfl (fun _ _ h => by cases h)
    exact ⟨_, dropped, rfl, rfl⟩

end SharedPool

end NativeBuild
